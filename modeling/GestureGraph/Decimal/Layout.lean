import GestureGraph.Decimal.Shortest

namespace GestureGraph.Decimal

structure Layout where
  tie : Tie
  /-- Whether a number with this position of the point is written without an exponent. -/
  positional : Int → Bool
  /-- What follows a number without decimals. -/
  whole : String
  nan : String
  infinite : Bool → String

def zeros (n : Int) : List Char := List.replicate n.toNat '0'

def signOf (negative : Bool) : String := if negative then "-" else ""

def Digits.plain (d : Digits) (whole : String) : String :=
  let size : Int := d.digits.length
  if d.point ≤ 0 then "0." ++ String.ofList (zeros (-d.point) ++ d.digits)
  else if size ≤ d.point then String.ofList (d.digits ++ zeros (d.point - size)) ++ whole
  else String.ofList (d.digits.take d.point.toNat ++ '.' :: d.digits.drop d.point.toNat)

def Digits.scientific (d : Digits) : String :=
  let power := d.point - 1
  let tail := d.digits.drop 1
  let head := d.digits.take 1 ++ (if tail.isEmpty then [] else '.' :: tail)
  String.ofList head ++ (if power < 0 then "e-" else "e+") ++ toString power.natAbs

def Layout.write (layout : Layout) (x : Float) : String :=
  match magnitude x with
  | .nan => layout.nan
  | .infinite => layout.infinite (isNegative x)
  | .finite b =>
      signOf (isNegative x) ++
        if b.mantissa = 0 then "0" ++ layout.whole
        else
          let d := b.shortest layout.tie
          if layout.positional d.point then d.plain layout.whole else d.scientific

def display : Layout where
  tie := .up
  positional _ := true
  whole := ""
  nan := "NaN"
  infinite negative := signOf negative ++ "inf"

/-- Exactly `count` decimals of the exact binary value; a half goes to the even neighbour. -/
def places (count : Nat) (x : Float) : String :=
  match magnitude x with
  | .nan => "NaN"
  | .infinite => signOf (isNegative x) ++ "inf"
  | .finite b =>
      let scaled := roundDiv .toEven (b.mantissa * powerUp 2 b.exponent * powerUp 10 count)
        (powerDown 2 b.exponent)
      let digits := decimalDigits scaled
      let padded := zeros ((count + 1 : Nat) - digits.length) ++ digits
      let cut := padded.length - count
      signOf (isNegative x) ++ String.ofList (padded.take cut) ++
        (if count = 0 then "" else "." ++ String.ofList (padded.drop cut))

def displayed (x : Float) : String := display.write x

end GestureGraph.Decimal
