import GestureGraph.Attributes
import GestureGraph.Coherence

namespace GestureGraph

inductive EventKind where
  | entityCreated
  | relationEstablished
  | blindSpotRegistered
  | entityEnriched
  | entityReturned
  | lifecycleChanged
  | tensionRecorded
  | dialogueRecorded
  deriving Repr, DecidableEq

namespace EventKind

def all : List EventKind :=
  [.entityCreated, .relationEstablished, .blindSpotRegistered, .entityEnriched, .entityReturned,
    .lifecycleChanged, .tensionRecorded, .dialogueRecorded]

def label : EventKind → String
  | .entityCreated => "entity_created"
  | .relationEstablished => "relation_established"
  | .blindSpotRegistered => "blind_spot_registered"
  | .entityEnriched => "entity_enriched"
  | .entityReturned => "entity_returned"
  | .lifecycleChanged => "lifecycle_changed"
  | .tensionRecorded => "tension_recorded"
  | .dialogueRecorded => "dialogue_recorded"

def ofLabel? (label : String) : Option EventKind := all.find? (·.label == label)

def weight : EventKind → Float
  | .entityCreated => 0.1
  | .entityEnriched => 0.1
  | .lifecycleChanged => 0.1
  | .relationEstablished => 0.2
  | .entityReturned => 0.2
  | .dialogueRecorded => 0.3
  | .blindSpotRegistered => 0.4
  | .tensionRecorded => 0.4

theorem ofLabel?_label (k : EventKind) : ofLabel? k.label = some k := by cases k <;> decide

end EventKind

structure Event where
  kind : EventKind
  before : Float
  after : Float
  intentions : List String
  affected : List String
  attributes : Attributes

namespace Event

def significance (e : Event) : Float :=
  let shift := (e.after - e.before).abs * 2.0
  let intent := 0.1 * (min e.intentions.length 3).toFloat
  clamp (e.kind.weight + shift + intent) 0.0 1.0

def isSignificant (e : Event) : Bool := 0.3 < e.significance

end Event

end GestureGraph
