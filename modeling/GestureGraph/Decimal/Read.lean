import GestureGraph.Decimal.Shortest

namespace GestureGraph.Decimal

def isDigit (c : Char) : Bool := '0' ≤ c && c ≤ '9'

def natOf (cs : List Char) : Nat := cs.foldl (fun n c => 10 * n + (c.toNat - '0'.toNat)) 0

/-- The float nearest to `mantissa * 10 ^ power`. Powers far beyond the range are decided by the
number of digits alone. -/
def nearest (mantissa : Nat) (power : Int) : Float :=
  let scale := power + (decimalDigits mantissa).length
  if mantissa = 0 ∨ scale < -400 then 0.0
  else if 400 < scale then 1.0 / 0.0
  else if power < 0 then Float.ofScientific mantissa true (-power).toNat
  else Float.ofScientific mantissa false power.toNat

def splitSign : List Char → Bool × List Char
  | '-' :: cs => (true, cs)
  | '+' :: cs => (false, cs)
  | cs => (false, cs)

/-- The exponent after its mark, which needs a digit; no text at all stands for zero. -/
def readPower? : List Char → Option Int
  | [] => some 0
  | mark :: cs =>
      let (negative, ds) := splitSign cs
      if (mark = 'e' ∨ mark = 'E') ∧ ds ≠ [] ∧ ds.all isDigit then
        some (if negative then -natOf ds else natOf ds)
      else none

def readUnsigned? (cs : List Char) : Option Float :=
  let whole := cs.takeWhile isDigit
  let rest := cs.dropWhile isDigit
  let (decimals, rest) :=
    match rest with
    | '.' :: rest => (rest.takeWhile isDigit, rest.dropWhile isDigit)
    | rest => ([], rest)
  if whole = [] ∧ decimals = [] then none
  else (readPower? rest).map fun power =>
    nearest (natOf (whole ++ decimals)) (power - decimals.length)

def readWord? (cs : List Char) : Option Float :=
  let word := String.ofList (cs.map Char.toLower)
  if word = "inf" ∨ word = "infinity" then some (1.0 / 0.0)
  else if word = "nan" then some (0.0 / 0.0)
  else none

def read? (cs : List Char) : Option Float :=
  let (negative, body) := splitSign cs
  ((readUnsigned? body).or (readWord? body)).map fun x => if negative then -x else x

end GestureGraph.Decimal
