import GestureGraph.Context
import GestureGraph.Json

namespace GestureGraph

structure Summary where
  name : String
  operator? : Option String
  nodes : Nat
  edges : Nat
  isolated : Nat
  coherence : Float
  history : List Float
  trend : Trend
  significantEvents : Nat
  tensions : Nat
  dialogues : Nat
  blindSpots : Texts
  fairCare : Bool

namespace Summary

def of (c : Context) : Summary where
  name := c.name
  operator? := c.operator?
  nodes := c.nodeCount
  edges := c.edgeCount
  isolated := c.graph.isolatedCount
  coherence := c.measure
  history := lastOf 10 c.samples
  trend := c.trend
  significantEvents := ((lastOf 5 c.events).filter (·.isSignificant)).length
  tensions := c.tensions.length
  dialogues := c.dialogues.length
  blindSpots := c.blindSpots
  fairCare := c.fairCare

def onOff (b : Bool) : String := if b then "on" else "off"

def lines (s : Summary) : List String :=
  ["context: " ++ s.name] ++
  (s.operator?.map ("  operator: " ++ ·)).toList ++
  [s!"  nodes: {s.nodes} (isolated {s.isolated}), edges: {s.edges}",
    "  coherence: " ++ Decimal.places 3 s.coherence ++ " (" ++ s.trend.label ++ ")",
    s!"  significant recent events: {s.significantEvents}",
    s!"  tensions: {s.tensions}, dialogues: {s.dialogues}, blind spots: {s.blindSpots.size}"] ++
  s.blindSpots.entries.map (fun (key, text) => "    " ++ key ++ ": " ++ text) ++
  ["  FAIR+CARE validation: " ++ onOff s.fairCare]

def text (s : Summary) : String := "\n".intercalate s.lines

end Summary

def Context.summary (c : Context) : Summary × Context := (.of c.sampled, c.sampled)

structure Metadata where
  provenance : Texts
  contextName : String
  operator? : Option String
  entities : Nat
  relations : Nat
  coherence : Float
  blindSpots : Nat
  dialogues : Nat
  createdAt : Nat

namespace Metadata

def of (c : Context) : Metadata where
  provenance := c.axioms.provenance
  contextName := c.name
  operator? := c.operator?
  entities := c.nodeCount
  relations := c.edgeCount
  coherence := c.measure
  blindSpots := c.blindSpots.size
  dialogues := c.dialogues.length
  createdAt := c.createdAt

def optional (text? : Option String) : Json :=
  match text? with
  | some text => .str text
  | none => .null

/-- Provenance fields come first, also those that share a key with a figure. -/
def members (m : Metadata) : List (String × Json) :=
  m.provenance.entries.map (fun (key, text) => (key, .str text)) ++
  [("context_name", .str m.contextName), ("operator", optional m.operator?),
    ("entity_count", .int m.entities), ("relation_count", .int m.relations),
    ("coherence_final", .float m.coherence), ("blind_spots_count", .int m.blindSpots),
    ("dialogues_count", .int m.dialogues), ("created_at", .int m.createdAt)]

def toJson (m : Metadata) : Json := .obj m.members

end Metadata

def Context.metadata (c : Context) : Metadata × Context := (.of c, c.sampled)

end GestureGraph
