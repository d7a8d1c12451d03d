import GestureGraph.Gesture
import GestureGraph.Program

namespace GestureGraph

inductive Recovery (X : Extension := .plain) where
  | marker
  | custom (code : X.Recovery)

structure Machine (X : Extension := .plain) where
  context : Context
  gestures : Registry X := Registry.builtIn
  depth : Nat := 0
  recovery : Recovery X := .marker
  cycles : Nat := 0
  memory : X.Memory := by exact ()

abbrev Step (X : Extension) (α : Type) := EStateM EvalError (Machine X) α

class Semantics (X : Extension) where
  perform : X.Gesture → Call → Step X Value
  recover : X.Recovery → LimitError → List String → Step X Value

namespace Machine

variable {X : Extension}

def onContext {α : Type} (act : Act α) : Step X α := fun m =>
  match act m.context with
  | .ok a c => .ok a { m with context := c }
  | .error e c => .error e { m with context := c }

instance : Semantics .plain where
  perform act call := onContext (act call)
  recover act e intentions := onContext (act e intentions)

def count (symbol : String) : Step X Unit :=
  modify fun m => { m with gestures := m.gestures.count symbol }

def limitMarker : String := "limit_acknowledged"

def limitIntention : String := "automatic Ω-return at limit"

def lift {α : Type} (check : Except LimitError α) : Step X α :=
  match check with
  | .ok a => pure a
  | .error e => throw (.limit e)

def checkCeilings : Step X Unit := do
  let m ← get
  lift (m.context.axioms.limits.checkDepth m.depth)
  lift (m.context.axioms.limits.checkEntities m.context.nodeCount)

def enter (m : Machine X) : Machine X := { m with depth := m.depth + 1 }

def leave (m : Machine X) : Machine X := { m with depth := m.depth - 1 }

variable [Semantics X]

def execute (g : Gesture X) (call : Call) : Step X Value :=
  match g.behavior with
  | .builtIn => onContext (call.perform g.kind)
  | .custom code => Semantics.perform code call

def call (g : Gesture X) (args : List Value) (keywords : Keywords) (intentions : List String) :
    Step X Value := do
  count g.symbol
  let m ← get
  execute g ⟨g.symbol, m.depth, args, keywords, intentions⟩

def callAlpha (name : String) (intentions : List String) : Step X Value := do
  let m ← get
  call m.gestures.alpha [.str name] {} intentions

def recoverBy (recovery : Recovery X) (e : LimitError) (intentions : List String) :
    Step X Value :=
  match recovery with
  | .marker => callAlpha limitMarker [limitIntention]
  | .custom code => Semantics.recover code e intentions

/-- A recovery that fails itself gives nil. -/
def recover (e : LimitError) (intentions : List String) : Step X Value := fun m =>
  match recoverBy m.recovery e intentions m with
  | .ok v m => .ok v m
  | .error _ m => .ok .nil m

/-- One level of evaluation: the depth is counted while it lasts, its recovery included. -/
def guarded (intentions : List String) (body : Step X Value) : Step X Value := fun m =>
  match (checkCeilings *> body) m.enter with
  | .ok v m => .ok v m.leave
  | .error (.limit e) m =>
      match recover e intentions m with
      | .ok v m => .ok v m.leave
      | .error e m => .error e m.leave
  | .error e m => .error e m.leave

mutual

def evaluate (intentions : List String) : Value → Step X Value
  | .list (.str symbol :: operands) => guarded intentions do
      let m ← get
      let split := Operands.split operands
      match m.gestures.get? symbol with
      | none => callAlpha symbol intentions
      | some g =>
          if g.kind.isSpecial then
            match g.behavior, g.kind with
            | .custom _, _ => call g split.positional split.keywords intentions
            | .builtIn, .alpha =>
                count g.symbol
                let m ← get
                let call : Call :=
                  ⟨g.symbol, m.depth, split.positional, split.keywords, intentions⟩
                onContext (call.requireOperands 1)
                let names ← visit intentions (fun v => onContext (call.collapse v)) operands
                return .oneOrMany names
            | .builtIn, _ =>
                count g.symbol
                let args ← visit intentions pure operands
                let m ← get
                execute g ⟨g.symbol, m.depth, args, split.keywords, intentions⟩
          else
            let args ← visit intentions pure operands
            call g args split.keywords intentions
  | .list items => guarded intentions (throw (.malformed (Value.list items).display))
  | v => guarded intentions (pure v)

/-- Goes through operands, passing over keywords and their values. Nested lists are evaluated, atoms
stay as they are, and each result is put to its use before the next operand's turn. -/
def visit (intentions : List String) (use : Value → Step X Value) :
    List Value → Step X (List Value)
  | [] => pure []
  | [v] =>
      if v.isKeyword then pure []
      else do
        let reduced ← (match v with
          | .list items => evaluate intentions (.list items)
          | v => pure v)
        let result ← use reduced
        return [result]
  | v :: w :: rest =>
      if v.isKeyword then visit intentions use rest
      else do
        let reduced ← (match v with
          | .list items => evaluate intentions (.list items)
          | v => pure v)
        let result ← use reduced
        let results ← visit intentions use (w :: rest)
        return result :: results

end

end Machine

end GestureGraph
