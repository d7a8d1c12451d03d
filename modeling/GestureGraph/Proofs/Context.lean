import GestureGraph.Context

namespace GestureGraph.Context

theorem keepSample_eq (c : Context) (coherence : Float) :
    ∃ samples, c.keepSample coherence = { c with samples := samples } := by
  simp only [keepSample]
  split
  · exact ⟨c.samples, rfl⟩
  · exact ⟨_, rfl⟩

theorem sampled_eq (c : Context) : ∃ samples, c.sampled = { c with samples := samples } :=
  c.keepSample_eq c.measure

def Note.event (note : Note) (before after : Float) : Event :=
  ⟨note.kind, before, after, note.intentions, note.affected, note.attributes⟩

theorem record_eq (c : Context) (note : Note) (change : Context → Context)
    (h : ∀ c samples, change { c with samples := samples } =
      { change c with samples := samples }) :
    ∃ samples, c.record note change =
      { change c with
        events := (change c).events ++ [note.event c.measure (change c).measure]
        samples := samples } := by
  obtain ⟨s, hs⟩ := c.keepSample_eq c.measure
  have hc : change (c.keepSample c.measure) = { change c with samples := s } := by rw [hs, h]
  obtain ⟨s', hs'⟩ := keepSample_eq { change c with samples := s } (change c).measure
  refine ⟨s', ?_⟩
  simp only [record, hc]
  rw [show ({ change c with samples := s } : Context).measure = (change c).measure from rfl, hs']
  rfl

variable (c : Context)

def named (name : String) : Entity :=
  (c.entity? name).getD { name := name, createdAt := c.now }

theorem withEntity_eq (name : String) (attrs : Attributes) :
    ∃ samples coherence, c.withEntity name attrs =
      { c with
        graph := { c.graph with
          nodes := c.graph.nodes.insert name ((c.named name).merge attrs.withoutIntentions) }
        grants := c.grants ++ [⟨name, "to_exist", c.operator?.getD "system", c.name⟩]
        events := c.events ++ [⟨.entityCreated, c.measure, coherence, attrs.intentions, [name],
          attrs.withoutIntentions.insert "name" (.str name)⟩]
        samples := samples } := by
  obtain ⟨samples, h⟩ : ∃ samples, c.withEntity name attrs = _ :=
    record_eq _ _ _ (by intros; rfl)
  exact ⟨samples, _, h⟩

theorem withRelation_eq (source target kind : String) (attrs : Attributes) :
    ∃ samples coherence, c.withRelation source target kind attrs =
      { c with
        graph := { c.graph with
          edges := c.graph.edges.insert ⟨source, target⟩
            ⟨Relation.idOf source target kind, source, target, kind, attrs.intentions, c.name,
              attrs.withoutIntentions⟩ }
        events := c.events ++ [⟨.relationEstablished, c.measure, coherence, attrs.intentions,
          [source, target],
          .ofList [("edge_id", .str (Relation.idOf source target kind)), ("type", .str kind)]⟩]
        samples := samples } := by
  obtain ⟨samples, h⟩ : ∃ samples, c.withRelation source target kind attrs = _ :=
    record_eq _ _ _ (by intros; rfl)
  exact ⟨samples, _, h⟩

theorem withAttributes_eq (name : String) (attrs : Attributes) :
    ∃ samples coherence, c.withAttributes name attrs =
      { c with
        graph := { c.graph with
          nodes := c.graph.nodes.modify name (·.merge attrs.withoutIntentions) }
        events := c.events ++ [⟨.entityEnriched, c.measure, coherence, attrs.intentions, [name],
          .ofList [("keys", .list (attrs.withoutIntentions.keys.map .str))]⟩]
        samples := samples } := by
  obtain ⟨samples, h⟩ : ∃ samples, c.withAttributes name attrs = _ :=
    record_eq _ _ _ (by intros; rfl)
  exact ⟨samples, _, h⟩

theorem registerBlindSpot_eq (key description : String) :
    ∃ samples coherence, c.registerBlindSpot key description =
      { c with
        blindSpots := c.blindSpots.insert key description
        events := c.events ++ [⟨.blindSpotRegistered, c.measure, coherence,
          ["acknowledged: " ++ key], [],
          .ofList [("key", .str key), ("description", .str description)]⟩]
        samples := samples } := by
  obtain ⟨samples, h⟩ : ∃ samples, c.registerBlindSpot key description = _ :=
    record_eq _ _ _ (by intros; rfl)
  exact ⟨samples, _, h⟩

theorem recordTension_eq (kind description : String) (entities : List String) :
    ∃ samples coherence, c.recordTension kind description entities =
      { c with
        tensions := c.tensions ++ [⟨kind, description, entities⟩]
        events := c.events ++ [⟨.tensionRecorded, c.measure, coherence, [], entities,
          .ofList [("kind", .str kind), ("description", .str description)]⟩]
        samples := samples } := by
  obtain ⟨samples, h⟩ : ∃ samples, c.recordTension kind description entities = _ :=
    record_eq _ _ _ (by intros; rfl)
  exact ⟨samples, _, h⟩

theorem recordDialogue_eq (prompt response : String) (intentions : List String) :
    ∃ samples coherence, c.recordDialogue prompt response intentions =
      { c with
        dialogues := c.dialogues ++ [⟨prompt, response, intentions, c.measure⟩]
        events := c.events ++ [⟨.dialogueRecorded, c.measure, coherence, intentions, [],
          .ofList [("prompt", .str prompt)]⟩]
        samples := samples } := by
  obtain ⟨samples, h⟩ : ∃ samples, c.recordDialogue prompt response intentions = _ :=
    record_eq c _
      (fun c' => { c' with
        dialogues := c'.dialogues ++ [⟨prompt, response, intentions, c.measure⟩] })
      (by intros; rfl)
  exact ⟨samples, _, h⟩

def lifecycleKind (status : String) : EventKind :=
  if status = statusReturned then .entityReturned else .lifecycleChanged

theorem setLifecycle?_eq {c' : Context} {name status : String} {intentions : List String}
    (h : c.setLifecycle? name status intentions = some c') :
    c.contains name = true ∧ ∃ samples coherence, c' =
      { c with
        graph := { c.graph with nodes := c.graph.nodes.modify name ({ · with status := status }) }
        events := c.events ++ [⟨lifecycleKind status, c.measure, coherence, intentions, [name],
          .ofList [("status", .str status)]⟩]
        samples := samples } := by
  simp only [setLifecycle?] at h
  split at h
  · rename_i hc
    obtain ⟨samples, hr⟩ : ∃ samples, c' = _ := by
      rw [← Option.some.inj h]
      exact record_eq _ _ _ (by intros; rfl)
    exact ⟨hc, samples, _, hr⟩
  · cases h

end GestureGraph.Context
