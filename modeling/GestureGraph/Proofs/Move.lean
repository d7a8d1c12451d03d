import GestureGraph.Machine
import GestureGraph.Summary

namespace GestureGraph

inductive Mutation where
  | addEntity (name : String) (attrs : Attributes)
  | addRelation (source target kind : String) (attrs : Attributes)
  | enrich (name : String) (attrs : Attributes)
  | ensureRoom (names : List String)
  | registerBlindSpot (key description : String)
  | recordTension (kind description : String) (entities : List String)
  | recordDialogue (prompt response : String) (intentions : List String)
  | setLifecycle (name status : String) (intentions : List String)
  | enableFairCare
  | setOperator (id : String)
  | coherence
  | summary
  | metadata
  | clock (now : Nat)

def Mutation.run : Mutation → Change Unit
  | .addEntity name attrs => discard (Context.addEntity name attrs)
  | .addRelation source target kind attrs => discard (Context.addRelation source target kind attrs)
  | .enrich name attrs => discard (Context.enrich name attrs)
  | .ensureRoom names => Context.ensureRoom names
  | .registerBlindSpot key description => modify (·.registerBlindSpot key description)
  | .recordTension kind description entities => modify (·.recordTension kind description entities)
  | .recordDialogue prompt response intentions =>
      modify (·.recordDialogue prompt response intentions)
  | .setLifecycle name status intentions =>
      modify fun c => (c.setLifecycle? name status intentions).getD c
  | .enableFairCare => modify (·.enableFairCare)
  | .setOperator id => modify (·.setOperator id)
  | .coherence => modify (·.sampled)
  | .summary => modify (·.summary.2)
  | .metadata => modify (·.metadata.2)
  | .clock now => modify ({ · with now := now })

inductive Move (X : Extension := .plain) where
  | require (call : Call) (least : Nat)
  | collapse (call : Call) (v : Value)
  | execute (g : Gesture X) (call : Call)
  | recover (code : X.Recovery) (e : LimitError) (intentions : List String)
  | mutate (μ : Mutation)

end GestureGraph
