import GestureGraph.Attributes
import Std.Data.HashSet.Lemmas

namespace GestureGraph

open Std

structure Entity where
  name : String
  createdAt : Nat
  status : String := "active"
  attributes : Attributes := {}

def statusReturned : String := "returned"

namespace Entity

def merge (e : Entity) (attrs : Attributes) : Entity :=
  { e with attributes := e.attributes.merge attrs }

def isSystem (e : Entity) : Bool :=
  match e.attributes.get? "system" with
  | some v => v.same (.bool true)
  | none => false

def attribute? (e : Entity) (key : String) : Option Value :=
  if key = "created_at" then
    if e.createdAt ≤ Int64.maxValue.toInt then some (.int (Int64.ofNat e.createdAt)) else none
  else if key = "lifecycle_status" then some (.str e.status)
  else e.attributes.get? key

end Entity

structure Ends where
  source : String
  target : String
  deriving Repr, DecidableEq

namespace Ends

def order : Ends → Ends → Ordering :=
  compareLex (compareOn Ends.source) (compareOn Ends.target)

instance : Ord Ends := ⟨order⟩

instance : TransOrd Ends := inferInstanceAs (TransCmp (compareLex _ _))

instance : LawfulEqOrd Ends where
  eq_of_compare {a b} h := by
    obtain ⟨h₁, h₂⟩ := compareLex_eq_eq.mp h
    have hs : a.source = b.source := LawfulEqCmp.eq_of_compare h₁
    have ht : a.target = b.target := LawfulEqCmp.eq_of_compare h₂
    cases a
    cases b
    simp_all

def touches (e : Ends) (name : String) : Bool := e.source == name || e.target == name

end Ends

structure Relation where
  id : String
  source : String
  target : String
  kind : String
  intentions : List String
  context : String
  attributes : Attributes

namespace Relation

def defaultKind : String := "Λ"

def idOf (source target kind : String) : String := s!"{source}→{target}({kind})"

end Relation

structure Graph where
  nodes : Table String Entity := {}
  edges : Table Ends Relation := {}

namespace Graph

def contains (g : Graph) (name : String) : Bool := g.nodes.contains name

/-- Incoming and outgoing relations; one from an entity to itself counts twice. -/
def degree (g : Graph) (name : String) : Nat :=
  g.edges.keys.countP (·.source == name) + g.edges.keys.countP (·.target == name)

def otherEnd? (name : String) (e : Ends) : Option String :=
  if e.source = name then some e.target
  else if e.target = name then some e.source
  else none

def neighbors (g : Graph) (name : String) : List String :=
  (Table.ofList ((g.edges.keys.filterMap (otherEnd? name)).map (·, ()))).keys

def isIsolated (g : Graph) (name : String) : Bool := !g.edges.keys.any (·.touches name)

def endNames (g : Graph) : List String := g.edges.keys.flatMap fun e => [e.source, e.target]

theorem isIsolated_eq (g : Graph) (name : String) :
    g.isIsolated name = !g.endNames.contains name := by
  have : g.edges.keys.any (·.touches name) = g.endNames.contains name :=
    Bool.eq_iff_iff.mpr (by simp [endNames, Ends.touches, @eq_comm _ name])
  rw [isIsolated, this]

/-- The ends are hashed once, so that each entity costs one look-up. -/
def isolatedCount (g : Graph) : Nat :=
  let ends := HashSet.ofList g.endNames
  g.nodes.keys.countP fun name => !ends.contains name

theorem isolatedCount_eq (g : Graph) : g.isolatedCount = g.nodes.keys.countP g.isIsolated := by
  simp only [isolatedCount, HashSet.contains_ofList]
  congr 1
  funext name
  exact (g.isIsolated_eq name).symm

end Graph

end GestureGraph
