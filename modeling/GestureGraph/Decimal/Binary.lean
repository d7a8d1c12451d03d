namespace GestureGraph.Decimal

/-- The number `mantissa * 2 ^ exponent`. `narrow` marks a mantissa whose lower neighbour is only
half as far away as its upper one. -/
structure Binary where
  mantissa : Nat
  exponent : Int
  narrow : Bool
  deriving Repr, DecidableEq

inductive Magnitude where
  | nan
  | infinite
  | finite (value : Binary)
  deriving Repr, DecidableEq

def fractionBound : Nat := 0x10000000000000

def magnitude (x : Float) : Magnitude :=
  let bits := x.toBits.toNat
  let fraction := bits % fractionBound
  let scale := bits / fractionBound % 2048
  if scale = 2047 then
    if fraction = 0 then .infinite else .nan
  else if scale = 0 then .finite ⟨fraction, -1074, false⟩
  else .finite ⟨fractionBound + fraction, (scale : Int) - 1075, fraction = 0 ∧ 1 < scale⟩

def isNegative (x : Float) : Bool := 0x8000000000000000 ≤ x.toBits.toNat

def powerUp (base : Nat) (power : Int) : Nat := Nat.pow base power.toNat

def powerDown (base : Nat) (power : Int) : Nat := Nat.pow base (-power).toNat

end GestureGraph.Decimal
