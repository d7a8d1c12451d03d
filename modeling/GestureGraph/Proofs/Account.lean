import GestureGraph.Proofs.Creation
import GestureGraph.Proofs.Run

namespace GestureGraph

structure Link where
  id : String
  kind : String
  intentions : List String

structure Exchange where
  prompt : String
  intentions : List String
  score : Float

structure Account where
  statuses : Table String String := {}
  links : Table Ends Link := {}
  blindSpots : Texts := {}
  tensions : List Tension := []
  exchanges : List Exchange := []
  subjects : List String := []

namespace Account

def textOf (attrs : Attributes) (key : String) : String :=
  match attrs.get? key with
  | some (.str text) => text
  | _ => ""

def activate (name : String) (statuses : Table String String) : Table String String :=
  if statuses.contains name then statuses else statuses.insert name "active"

def read (a : Account) (e : Event) : Account :=
  match e.kind, e.affected with
  | .entityCreated, [name] =>
      { a with statuses := activate name a.statuses, subjects := a.subjects ++ [name] }
  | .relationEstablished, [source, target] =>
      let link : Link :=
        ⟨textOf e.attributes "edge_id", textOf e.attributes "type", e.intentions⟩
      { a with links := a.links.insert ⟨source, target⟩ link }
  | .blindSpotRegistered, _ =>
      let key := textOf e.attributes "key"
      { a with blindSpots := a.blindSpots.insert key (textOf e.attributes "description") }
  | .entityReturned, [name] =>
      { a with statuses := a.statuses.modify name fun _ => textOf e.attributes "status" }
  | .lifecycleChanged, [name] =>
      { a with statuses := a.statuses.modify name fun _ => textOf e.attributes "status" }
  | .tensionRecorded, entities =>
      let tension : Tension :=
        ⟨textOf e.attributes "kind", textOf e.attributes "description", entities⟩
      { a with tensions := a.tensions ++ [tension] }
  | .dialogueRecorded, _ =>
      let exchange : Exchange := ⟨textOf e.attributes "prompt", e.intentions, e.before⟩
      { a with exchanges := a.exchanges ++ [exchange] }
  | _, _ => a

def ofEvents (events : List Event) : Account := events.foldl read {}

def of (c : Context) : Account where
  statuses := c.graph.nodes.map (·.status)
  links := c.graph.edges.map fun r => ⟨r.id, r.kind, r.intentions⟩
  blindSpots := c.blindSpots
  tensions := c.tensions
  exchanges := c.dialogues.map fun d => ⟨d.prompt, d.intentions, d.score⟩
  subjects := c.grants.map (·.subject)

theorem ofEvents_append (events : List Event) (e : Event) :
    ofEvents (events ++ [e]) = (ofEvents events).read e := by
  simp [ofEvents, List.foldl_append]

theorem textOf_single (key text : String) : textOf (.ofList [(key, .str text)]) key = text := by
  simp [textOf, Table.ofList]

theorem textOf_pair {key key' : String} (h : key ≠ key') (text text' : String) :
    textOf (.ofList [(key, .str text), (key', .str text')]) key = text ∧
    textOf (.ofList [(key, .str text), (key', .str text')]) key' = text' := by
  constructor
  · simp [textOf, Table.ofList, Table.get?_insert_eq, h]
  · simp [textOf, Table.ofList]

theorem activate_map_status (nodes : Table String Entity) (name : String) (now : Nat)
    (attrs : Attributes) :
    activate name (nodes.map (·.status)) =
      (nodes.insert name (((nodes.get? name).getD { name := name, createdAt := now }).merge
        attrs)).map (·.status) := by
  rw [Table.map_insert, activate, Table.contains_map]
  cases h : nodes.get? name with
  | none => simp [Table.contains, h, Entity.merge]
  | some e =>
      have hs : (nodes.map (·.status)).get? name = some e.status := by simp [Table.get?_map, h]
      simp [Table.contains, h, Entity.merge, Table.insert_of_get? hs]

theorem ofEvents_of_alteration {c c' : Context} (h : c.Alteration c')
    (hc : ofEvents c.events = of c) : ofEvents c'.events = of c' := by
  cases h with
  | sample =>
      obtain ⟨samples, h⟩ := c.sampled_eq
      rw [h]
      exact hc
  | entity name attrs room =>
      obtain ⟨samples, coherence, h⟩ := c.withEntity_eq name attrs
      have hs := activate_map_status c.graph.nodes name c.now attrs.withoutIntentions
      rw [h, ofEvents_append, hc]
      simp only [read, of, hs, List.map_append, List.map_cons, List.map_nil]
      rfl
  | relation source target kind attrs hs ht =>
      obtain ⟨samples, coherence, h⟩ := c.withRelation_eq source target kind attrs
      obtain ⟨hid, hkind⟩ := textOf_pair (show "edge_id" ≠ "type" by decide)
        (Relation.idOf source target kind) kind
      rw [h, ofEvents_append, hc]
      simp only [read, of, hid, hkind, Table.map_insert]
  | attributes name attrs hn =>
      obtain ⟨samples, coherence, h⟩ := c.withAttributes_eq name attrs
      have hs : (c.graph.nodes.modify name (·.merge attrs.withoutIntentions)).map (·.status) =
          c.graph.nodes.map (·.status) := Table.map_modify_of_eq _ _ (by intros; rfl)
      rw [h, ofEvents_append, hc]
      simp only [read, of, hs]
  | blindSpot key description =>
      obtain ⟨samples, coherence, h⟩ := c.registerBlindSpot_eq key description
      obtain ⟨hkey, hdescription⟩ := textOf_pair (show "key" ≠ "description" by decide)
        key description
      rw [h, ofEvents_append, hc]
      simp only [read, of, hkey, hdescription]
  | tension kind description entities =>
      obtain ⟨samples, coherence, h⟩ := c.recordTension_eq kind description entities
      obtain ⟨hkind, hdescription⟩ := textOf_pair (show "kind" ≠ "description" by decide)
        kind description
      rw [h, ofEvents_append, hc]
      simp only [read, of, hkind, hdescription]
  | dialogue prompt response intentions =>
      obtain ⟨samples, coherence, h⟩ := c.recordDialogue_eq prompt response intentions
      rw [h, ofEvents_append, hc]
      simp only [read, of, textOf_single, List.map_append, List.map_cons, List.map_nil]
  | lifecycle name status intentions h =>
      obtain ⟨_, samples, coherence, h⟩ := c.setLifecycle?_eq h
      have hs : (c.graph.nodes.modify name ({ · with status := status })).map (·.status) =
          (c.graph.nodes.map (·.status)).modify name fun _ => status :=
        Table.map_modify _ _ (by intros; rfl)
      rw [h, ofEvents_append, hc]
      simp only [of, hs, Context.lifecycleKind]
      split
      · simp only [read, textOf_single]
      · simp only [read, textOf_single]
  | fairCare => exact hc
  | operator id => exact hc
  | clock now => exact hc

theorem ofEvents_of_reaches {c c' : Context} (h : c.Reaches c')
    (hc : ofEvents c.events = of c) : ofEvents c'.events = of c' := by
  induction h with
  | refl => exact hc
  | tail _ ha ih => exact ofEvents_of_alteration ha ih

end Account

namespace Machine

theorem events_account_for_context {name : String} {axioms : Axioms} {now : Nat} {c : Context}
    (h : Context.create name axioms now = .ok c) {actions : List Action}
    (ha : ∀ a ∈ actions, a.Lawful Tame) :
    ∀ m ∈ stations actions { context := c },
      Account.ofEvents m.context.events = Account.of m.context := by
  intro m hm
  have hbare : Account.ofEvents (Context.bare name axioms now).events =
      Account.of (Context.bare name axioms now) := rfl
  have hcreated := Account.ofEvents_of_reaches (Context.reaches_of_create h) hbare
  exact Account.ofEvents_of_reaches (reaches_stations ha hm) hcreated

theorem events_account_for_rehearsal : ∃ c, Context.create "rehearsal" .builtIn 0 = .ok c ∧
    (∀ a ∈ rehearsal, a.Lawful Tame) ∧
    Account.ofEvents (perform rehearsal { context := c }).context.events =
      Account.of (perform rehearsal { context := c }).context := by
  obtain ⟨c, hc⟩ := Context.create_of_room "rehearsal" 0
    (show 6 ≤ Axioms.builtIn.limits.entities by decide)
  exact ⟨c, hc, lawful_rehearsal,
    events_account_for_context hc lawful_rehearsal _ (perform_mem_stations _ _)⟩

end Machine

end GestureGraph
