import GestureGraph.Decimal.Binary
import GestureGraph.Decimal.Round

/-!
The fewest decimal digits that read back as a given binary number. The reals that round to it form
an interval; on the grid of one digit, two digits and so on, the number's two neighbours are tried,
and the first grid with a neighbour in the interval wins.
-/

namespace GestureGraph.Decimal

/-- The number `0.d₁d₂… * 10 ^ point`, with digits most significant first. -/
structure Digits where
  digits : List Char
  point : Int
  deriving Repr, DecidableEq

def decimalDigits (n : Nat) : List Char := Nat.toDigits 10 n

def decimalScale (num den : Nat) : Int :=
  if den ≤ num then ((decimalDigits (num / den)).length : Int)
  else 1 - ((decimalDigits ((den - 1) / num)).length : Int)

/-- Four times the number, and the ends of its interval, in one unit. -/
structure Interval where
  low : Nat
  middle : Nat
  high : Nat
  unit : Int
  closed : Bool

def Binary.interval (b : Binary) : Interval where
  low := 4 * b.mantissa - (if b.narrow then 1 else 2)
  middle := 4 * b.mantissa
  high := 4 * b.mantissa + 2
  unit := b.exponent - 2
  closed := b.mantissa % 2 = 0

def Interval.contains (i : Interval) (n : Nat) (grid : Int) : Bool :=
  let value := n * powerUp 10 grid * powerDown 2 i.unit
  let scaled := fun bound => bound * powerUp 2 i.unit * powerDown 10 grid
  if i.closed then scaled i.low ≤ value && value ≤ scaled i.high
  else scaled i.low < value && value < scaled i.high

def Interval.pick? (i : Interval) (tie : Tie) (grid : Int) : Option Nat :=
  let num := i.middle * powerUp 2 i.unit * powerDown 10 grid
  let den := powerUp 10 grid * powerDown 2 i.unit
  let lower := num / den
  match i.contains lower grid, i.contains (lower + 1) grid with
  | true, true => some (roundDiv tie num den)
  | true, false => some lower
  | false, true => some (lower + 1)
  | false, false => none

theorem Interval.contains_of_pick? {i : Interval} {tie : Tie} {grid : Int} {n : Nat}
    (h : i.pick? tie grid = some n) : i.contains n grid = true := by
  simp only [Interval.pick?] at h
  split at h
  · rename_i hl hu
    have hn := Option.some.inj h
    subst hn
    simp only [roundDiv]
    split
    · exact hl
    · split
      · exact hu
      · cases tie with
        | up => exact hu
        | toEven =>
            simp only [Tie.chooses]
            split
            · exact hl
            · exact hu
  · rename_i hl _
    exact Option.some.inj h ▸ hl
  · rename_i _ hu
    exact Option.some.inj h ▸ hu
  · cases h

def trimZeros (digits : List Char) : List Char := (digits.reverse.dropWhile (· = '0')).reverse

def Digits.ofGrid (n : Nat) (grid : Int) : Digits :=
  let digits := decimalDigits n
  ⟨trimZeros digits, grid + digits.length⟩

/-- Seventeen digits always suffice; the exact value stands behind them. -/
def Binary.shortest (tie : Tie) (b : Binary) : Digits :=
  let i := b.interval
  let scale := decimalScale (i.middle * powerUp 2 i.unit) (powerDown 2 i.unit)
  let grids := (List.range 17).map fun n => scale - (n + 1 : Nat)
  let found := grids.findSome? fun grid => (i.pick? tie grid).map (·, grid)
  match found with
  | some (n, grid) => .ofGrid n grid
  | none => .ofGrid (b.mantissa * powerUp 2 b.exponent * powerDown 5 b.exponent) (min b.exponent 0)

end GestureGraph.Decimal
