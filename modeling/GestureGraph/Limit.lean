namespace GestureGraph

structure Limits where
  recursionDepth : Nat := 64
  entities : Nat := 10000
  parseDepth : Nat := 256
  deriving Repr, DecidableEq

inductive LimitError where
  | recursionDepth (depth max : Nat)
  | entityCount (count max : Nat)
  | absolutism (phrase pattern : String)
  deriving Repr, DecidableEq

namespace LimitError

def message : LimitError → String
  | .recursionDepth depth max => s!"recursion depth {depth} exceeds ceiling {max}"
  | .entityCount count max => s!"entity count {count} exceeds ceiling {max}"
  | .absolutism phrase pattern =>
      s!"absolutist phrase \"{phrase}\" matches banned pattern {pattern}"

def code : LimitError → String
  | .recursionDepth .. => "logos::limit::recursion"
  | .entityCount .. => "logos::limit::population"
  | .absolutism .. => "logos::limit::absolutism"

def help : LimitError → String
  | .recursionDepth .. =>
      "The expression nests deeper than the configured ceiling. " ++
        "Flatten the expression or raise `limits.max_recursion_depth` in the axioms file."
  | .entityCount .. =>
      "The context holds as many entities as it may. Export and reset the " ++
        "context, or raise `limits.max_entities` in the axioms file."
  | .absolutism .. =>
      "Rephrase without absolute claims. The pattern list lives under `[absolutism]` in the " ++
        "axioms file."

end LimitError

namespace Limits

def checkDepth (limits : Limits) (depth : Nat) : Except LimitError Unit :=
  if limits.recursionDepth < depth then .error (.recursionDepth depth limits.recursionDepth)
  else .ok ()

def checkEntities (limits : Limits) (count : Nat) : Except LimitError Unit :=
  if limits.entities < count then .error (.entityCount count limits.entities) else .ok ()

theorem checkDepth_eq_ok_iff {limits : Limits} {depth : Nat} :
    limits.checkDepth depth = .ok () ↔ depth ≤ limits.recursionDepth := by
  simp only [checkDepth]
  split <;> simp <;> omega

theorem checkEntities_eq_ok_iff {limits : Limits} {count : Nat} :
    limits.checkEntities count = .ok () ↔ count ≤ limits.entities := by
  simp only [checkEntities]
  split <;> simp <;> omega

end Limits

end GestureGraph
