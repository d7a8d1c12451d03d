namespace GestureGraph

/-- Not-a-number stays what it is. -/
def clamp (x low high : Float) : Float :=
  let x := if x < low then low else x
  if high < x then high else x

def tensionWeight (tensions : Nat) : Float :=
  let weight := tensions.toFloat / 10.0
  if weight < 1.0 then weight else 1.0

def coherenceOf (nodes isolated tensions : Nat) : Float :=
  if nodes = 0 then 1.0
  else clamp (1.0 - (isolated.toFloat / nodes.toFloat + tensionWeight tensions)) 0.0 1.0

inductive Trend where
  | improving
  | declining
  | stable
  deriving Repr, DecidableEq

namespace Trend

def label : Trend → String
  | .improving => "improving"
  | .declining => "declining"
  | .stable => "stable"

def ofSamples : List Float → Trend
  | [] => .stable
  | [_] => .stable
  | first :: second :: rest =>
      let shift := (second :: rest).getLastD second - first
      if 0.05 < shift then .improving
      else if shift < -0.05 then .declining
      else .stable

end Trend

def lastOf {α : Type} (n : Nat) (xs : List α) : List α := xs.drop (xs.length - n)

end GestureGraph
