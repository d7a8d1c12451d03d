import GestureGraph.Context
import GestureGraph.EvalError
import GestureGraph.Value.Keywords

namespace GestureGraph

abbrev Act (α : Type) := EStateM EvalError Context α

def Change.act {α : Type} (change : Change α) : Act α := fun c =>
  match change c with
  | .ok a c => .ok a c
  | .error e c => .error (.limit e) c

structure Call where
  symbol : String
  depth : Nat
  args : List Value
  keywords : Keywords
  intentions : List String

namespace Call

def requireOperands (call : Call) (least : Nat) : Act Unit :=
  if call.args.length < least then throw (.arity call.symbol least call.args.length) else pure ()

def nameOf (call : Call) (v : Value) : Act String :=
  match v.name? with
  | some name => pure name
  | none => throw (.unnamed call.symbol v.display)

def namesOf (call : Call) : List Value → Act (List String)
  | [] => pure []
  | v :: vs => do
      let name ← call.nameOf v
      let names ← call.namesOf vs
      return name :: names

/-- The keywords as attributes, less some, with the call's intentions unless the caller stated his
own. -/
def attributes (call : Call) (skip : List String) : Attributes :=
  let given : Attributes := .ofList (call.keywords.entries.filter fun e => !skip.contains e.1)
  if call.intentions.isEmpty || given.contains Attributes.intentionKey then given
  else given.insert Attributes.intentionKey (.list (call.intentions.map .str))

def keywordName? (call : Call) (key : String) : Option String :=
  (call.keywords.get? key).bind Value.name?

def collapse (call : Call) (v : Value) : Act Value := do
  let name ← call.nameOf v
  let name ← (Context.addEntity name (call.attributes [])).act
  return .str name

def collapseAll (call : Call) : List Value → Act (List Value)
  | [] => pure []
  | v :: vs => do
      let name ← call.collapse v
      let names ← call.collapseAll vs
      return name :: names

def chain (kind : String) (attrs : Attributes) : List String → Change (List Value)
  | source :: target :: rest => do
      let id ← Context.addRelation source target kind attrs
      let ids ← chain kind attrs (target :: rest)
      return .str id :: ids
  | _ => pure []

def connect (call : Call) : Act Value := do
  call.requireOperands 2
  let kind := (call.keywordName? "type").getD Relation.defaultKind
  let names ← call.namesOf call.args
  (Context.ensureRoom names).act
  let ids ← (chain kind (call.attributes ["type"]) names).act
  return .oneOrMany ids

def gather (kind target : String) (names : List String) : Change Unit :=
  names.forM fun name => discard (Context.addRelation name target kind {})

def synthesisName (components : List String) : String :=
  "Σ(" ++ ",".intercalate components ++ ")"

def synthesize (call : Call) : Act Value := do
  call.requireOperands 2
  let components ← call.namesOf call.args
  let name := (call.keywordName? "name").getD (synthesisName components)
  let attrs := (call.attributes ["name"]).insert "type" (.str "synthesis")
    |>.insert "components" (.list (components.map .str))
  (Context.ensureRoom (components ++ [name])).act
  discard (Context.addEntity name attrs).act
  (gather "Σ" name components).act
  return .str name

def enrich (call : Call) : Act Value := do
  call.requireOperands 1
  let names ← call.namesOf call.args
  match names with
  | [] => return .nil
  | target :: sources =>
      (Context.ensureRoom (sources ++ [target])).act
      discard (Context.enrich target (call.attributes [])).act
      (gather "∇" target sources).act
      return .str target

/-- The last operand is the result. An entity of its name is marked as returned; a name without an
entity is a tension. -/
def giveBack (call : Call) : Act Value := do
  let last := call.args.getLastD .nil
  match last.name? with
  | none => return last
  | some name =>
      modify fun c =>
        (c.setLifecycle? name statusReturned call.intentions).getD
          (c.recordTension "unresolved_return"
            s!"Ω returned to '{name}', which does not exist" [name])
      return last

def response (c : Context) (prompt : String) : String :=
  s!"Φ[{prompt}]: '{c.name}' holds {c.nodeCount} entities and {c.edgeCount} relations; " ++
  "coherence " ++ Decimal.places 2 c.measure ++ " (" ++ c.trend.label ++ "); unresolved: " ++
  ", ".intercalate c.blindSpots.keys

def converse (call : Call) : Act Value := do
  let prompt := " ".intercalate (call.args.map Value.display)
  let answer := response (← get) prompt
  modify fun c => c.recordDialogue prompt answer call.intentions
  return .str answer

def collapseOperands (call : Call) : Act Value := do
  call.requireOperands 1
  let names ← call.collapseAll call.args
  return .oneOrMany names

def perform (call : Call) : Operator → Act Value
  | .alpha => call.collapseOperands
  | .lambda => call.connect
  | .sigma => call.synthesize
  | .omega => call.giveBack
  | .nabla => call.enrich
  | .phi => call.converse

end Call

/-- What gestures and recoveries that are not built in consist of, and what they keep between calls
for themselves. -/
structure Extension where
  Gesture : Type
  Recovery : Type
  Memory : Type

abbrev Extension.plain : Extension where
  Gesture := Call → Act Value
  Recovery := LimitError → List String → Act Value
  Memory := Unit

inductive Behavior (X : Extension := .plain) where
  | builtIn
  | custom (code : X.Gesture)

structure Gesture (X : Extension := .plain) where
  symbol : String
  kind : Operator
  behavior : Behavior X := .builtIn
  calls : Nat := 0

namespace Gesture

def perform (g : Gesture) (call : Call) : Act Value :=
  match g.behavior with
  | .builtIn => call.perform g.kind
  | .custom act => act call

end Gesture

abbrev Registry (X : Extension := .plain) := Table String (Gesture X)

namespace Registry

variable {X : Extension}

def register (r : Registry X) (g : Gesture X) : Registry X := r.insert g.symbol g

/-- The six operators, under glyph and alias each with a count of its own. -/
def builtIn : Registry X :=
  Operator.all.foldl
    (fun r op => (register r { symbol := op.glyph, kind := op }).register
      { symbol := op.latin, kind := op })
    {}

def count (r : Registry X) (symbol : String) : Registry X :=
  r.modify symbol fun g => { g with calls := g.calls + 1 }

/-- The gesture that names things: the registered one, or else a fresh one. -/
def alpha (r : Registry X) : Gesture X :=
  (r.get? Operator.alpha.glyph).getD { symbol := Operator.alpha.glyph, kind := .alpha }

def listing (r : Registry X) : String :=
  "GestureRegistry \x7b gestures: [" ++ ", ".intercalate (r.keys.map Text.quoted) ++ "] \x7d"

end Registry

end GestureGraph
