import GestureGraph.Machine
import GestureGraph.Summary

namespace GestureGraph

structure Cycle where
  id : String
  timestamp : Nat
  evaluated : Nat
  successful : Nat
  results : List Value
  coherence : Float
  dialogues : Nat
  recentScores : List Float
  operator? : Option String
  fairCare : Bool

namespace Cycle

def toJson (cycle : Cycle) : Json := .obj
  [("cycle_id", .str cycle.id), ("timestamp", .int cycle.timestamp),
    ("expressions_evaluated", .int cycle.evaluated),
    ("successful_evaluations", .int cycle.successful),
    ("results", .arr (Value.toJsonAll cycle.results)),
    ("final_coherence", .float cycle.coherence), ("dialogue_count", .int cycle.dialogues),
    ("recent_dialogue_scores", .arr (cycle.recentScores.map .float)),
    ("operator_id", Metadata.optional cycle.operator?),
    ("fair_care_enabled", .bool cycle.fairCare)]

def document (cycle : Cycle) (c : Context) : String × Context :=
  let (metadata, c) := c.metadata
  ((Json.obj [("cycle", cycle.toJson), ("metadata", metadata.toJson)]).pretty, c)

end Cycle

def Context.recentScores (c : Context) : List Float := (lastOf 10 c.dialogues).map (·.score)

structure CycleOptions where
  operator? : Option String := none
  fairCare : Bool := false

def CycleOptions.apply (options : CycleOptions) (c : Context) : Context :=
  let c := match options.operator? with
    | some id => c.setOperator id
    | none => c
  if options.fairCare then c.enableFairCare else c

namespace Machine

def evaluateAll (intentions : List String) : List Value → Machine → List Value × Machine
  | [], m => ([], m)
  | expr :: rest, m =>
      match evaluate intentions expr m with
      | .ok v m =>
          let (results, m) := evaluateAll intentions rest m
          (v :: results, m)
      | .error e m =>
          let (results, m) := evaluateAll intentions rest m
          (.failed e.message :: results, m)

def prepare (options : CycleOptions) (m : Machine) : Machine :=
  { m with context := options.apply m.context, cycles := m.cycles + 1 }

def runProgram (program : Program) (options : CycleOptions) (m : Machine) : Cycle × Machine :=
  let (results, m) := evaluateAll program.intentions program.expressions (m.prepare options)
  let cycle : Cycle := {
    id := s!"cycle_{m.context.now}_{m.cycles}"
    timestamp := m.context.now
    evaluated := program.expressions.length
    successful := (results.filter fun v => !v.isFailed).length
    results := results
    coherence := m.context.measure
    dialogues := m.context.dialogues.length
    recentScores := m.context.recentScores
    operator? := options.operator?
    fairCare := options.fairCare }
  (cycle, { m with context := m.context.sampled })

def runSource (source : String) (options : CycleOptions) (m : Machine) :
    Except ReadError (Cycle × Machine) :=
  (Program.read m.context.axioms "<input>" source).map fun program =>
    m.runProgram program options

end Machine

end GestureGraph
