import GestureGraph.Axioms
import GestureGraph.Event
import GestureGraph.Graph
import GestureGraph.Operator

namespace GestureGraph

structure Tension where
  kind : String
  description : String
  entities : List String
  deriving Repr, DecidableEq

structure Dialogue where
  prompt : String
  response : String
  intentions : List String
  score : Float
  deriving Repr, DecidableEq

structure Grant where
  subject : String
  right : String
  grantedBy : String
  context : String
  deriving Repr, DecidableEq

structure Context where
  name : String
  createdAt : Nat
  axioms : Axioms
  graph : Graph := {}
  events : List Event := []
  tensions : List Tension := []
  dialogues : List Dialogue := []
  blindSpots : Texts := {}
  /-- Every coherence that was read while the graph had entities, oldest first. -/
  samples : List Float := []
  grants : List Grant := []
  fairCare : Bool := false
  operator? : Option String := none
  now : Nat

namespace Context

def nodeCount (c : Context) : Nat := c.graph.nodes.size

def edgeCount (c : Context) : Nat := c.graph.edges.size

def contains (c : Context) (name : String) : Bool := c.graph.contains name

def entity? (c : Context) (name : String) : Option Entity := c.graph.nodes.get? name

def relation? (c : Context) (source target : String) : Option Relation :=
  c.graph.edges.get? ⟨source, target⟩

def measure (c : Context) : Float :=
  coherenceOf c.nodeCount c.graph.isolatedCount c.tensions.length

def keepSample (c : Context) (coherence : Float) : Context :=
  if c.graph.nodes.isEmpty then c else { c with samples := c.samples ++ [coherence] }

def sampled (c : Context) : Context := c.keepSample c.measure

def trend (c : Context) : Trend := .ofSamples (lastOf 5 c.samples)

structure Note where
  kind : EventKind
  intentions : List String := []
  affected : List String := []
  attributes : Attributes := {}

def record (c : Context) (note : Note) (change : Context → Context) : Context :=
  let before := c.measure
  let changed := change (c.keepSample before)
  let after := changed.measure
  let event : Event :=
    ⟨note.kind, before, after, note.intentions, note.affected, note.attributes⟩
  { changed.keepSample after with events := changed.events ++ [event] }

def setGraph (f : Graph → Graph) (c : Context) : Context := { c with graph := f c.graph }

def withEntity (c : Context) (name : String) (attrs : Attributes) : Context :=
  let kept := attrs.withoutIntentions
  let grant : Grant := ⟨name, "to_exist", c.operator?.getD "system", c.name⟩
  record { c with grants := c.grants ++ [grant] }
    { kind := .entityCreated
      intentions := attrs.intentions
      affected := [name]
      attributes := kept.insert "name" (.str name) }
    (setGraph fun g =>
      let entity := (g.nodes.get? name).getD { name := name, createdAt := c.now }
      { g with nodes := g.nodes.insert name (entity.merge kept) })

def withRelation (c : Context) (source target kind : String) (attrs : Attributes) : Context :=
  let id := Relation.idOf source target kind
  let relation : Relation :=
    ⟨id, source, target, kind, attrs.intentions, c.name, attrs.withoutIntentions⟩
  c.record
    { kind := .relationEstablished
      intentions := attrs.intentions
      affected := [source, target]
      attributes := .ofList [("edge_id", .str id), ("type", .str kind)] }
    (setGraph fun g => { g with edges := g.edges.insert ⟨source, target⟩ relation })

def withAttributes (c : Context) (name : String) (attrs : Attributes) : Context :=
  let kept := attrs.withoutIntentions
  c.record
    { kind := .entityEnriched
      intentions := attrs.intentions
      affected := [name]
      attributes := .ofList [("keys", .list (kept.keys.map .str))] }
    (setGraph fun g => { g with nodes := g.nodes.modify name (·.merge kept) })

def registerBlindSpot (c : Context) (key description : String) : Context :=
  c.record
    { kind := .blindSpotRegistered
      intentions := ["acknowledged: " ++ key]
      attributes := .ofList [("key", .str key), ("description", .str description)] }
    fun c => { c with blindSpots := c.blindSpots.insert key description }

def recordTension (c : Context) (kind description : String) (entities : List String) : Context :=
  c.record
    { kind := .tensionRecorded
      affected := entities
      attributes := .ofList [("kind", .str kind), ("description", .str description)] }
    fun c => { c with tensions := c.tensions ++ [⟨kind, description, entities⟩] }

def recordDialogue (c : Context) (prompt response : String) (intentions : List String) : Context :=
  let score := c.measure
  c.record
    { kind := .dialogueRecorded
      intentions := intentions
      attributes := .ofList [("prompt", .str prompt)] }
    fun c => { c with dialogues := c.dialogues ++ [⟨prompt, response, intentions, score⟩] }

def setLifecycle? (c : Context) (name status : String) (intentions : List String) :
    Option Context :=
  if c.contains name then
    some (c.record
      { kind := if status = statusReturned then .entityReturned else .lifecycleChanged
        intentions := intentions
        affected := [name]
        attributes := .ofList [("status", .str status)] }
      (setGraph fun g => { g with nodes := g.nodes.modify name ({ · with status := status }) }))
  else none

def enableFairCare (c : Context) : Context := { c with fairCare := true }

def setOperator (c : Context) (id : String) : Context := { c with operator? := some id }

end Context

/-- A change of a context that may run into a limit. What was changed before stays changed. -/
abbrev Change (α : Type) := EStateM LimitError Context α

namespace Context

def missing (c : Context) (names : List String) : List String :=
  (names.filter fun name => !c.contains name).eraseDups

def ensureRoom (names : List String) : Change Unit := fun c =>
  match c.missing names with
  | [] => .ok () c
  | absent =>
      match c.axioms.limits.checkEntities (c.nodeCount + absent.length) with
      | .error e => .error e c
      | .ok () => .ok () c

/-- Names an entity, if one more would fit under the ceiling; also one that is there already. -/
def addEntity (name : String) (attrs : Attributes) : Change String := fun c =>
  match c.axioms.limits.checkEntities (c.nodeCount + 1) with
  | .error e => .error e c
  | .ok () => .ok name (c.withEntity name attrs)

def addMissing (name : String) : Change Unit := do
  if !(← get).contains name then
    discard (addEntity name {})

def addRelation (source target kind : String) (attrs : Attributes) : Change String := do
  ensureRoom [source, target]
  addMissing source
  addMissing target
  modify fun c => c.withRelation source target kind attrs
  return Relation.idOf source target kind

def enrich (name : String) (attrs : Attributes) : Change String := do
  addMissing name
  modify fun c => c.withAttributes name attrs
  return name

def operatorAttributes (op : Operator) : Attributes := .ofList
  [("type", .str "ontological_operator"), ("name", .str op.latin), ("meaning", .str op.meaning),
    ("system", .bool true)]

def bare (name : String) (axioms : Axioms) (now : Nat) : Context where
  name := name
  createdAt := now
  axioms := axioms
  now := now

def withRequired (c : Context) : Context :=
  c.axioms.blindSpots.entries.foldl (fun c (key, text) => c.registerBlindSpot key text) c

def addOperators : Change Unit :=
  Operator.all.forM fun op => discard (addEntity op.glyph (operatorAttributes op))

def create (name : String) (axioms : Axioms) (now : Nat) : Except LimitError Context :=
  match addOperators (bare name axioms now).withRequired with
  | .ok _ c => .ok c
  | .error e _ => .error e

end Context

end GestureGraph
