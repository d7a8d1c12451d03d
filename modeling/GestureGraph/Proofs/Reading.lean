import GestureGraph.Proofs.Context

namespace GestureGraph.Context

def keptOf (c : Context) (coherence : Float) : List Float :=
  if c.graph.nodes.isEmpty then [] else [coherence]

theorem keepSample_eq_append (c : Context) (coherence : Float) :
    c.keepSample coherence = { c with samples := c.samples ++ c.keptOf coherence } := by
  simp only [keepSample, keptOf]
  split
  · rw [List.append_nil]
  · rfl

theorem sampled_eq_append (c : Context) :
    c.sampled = { c with samples := c.samples ++ c.keptOf c.measure } :=
  c.keepSample_eq_append c.measure

structure Noted (c c' : Context) (e : Event) : Prop where
  events : c'.events = c.events ++ [e]
  before : e.before = c.measure
  after : e.after = c'.measure
  samples : c'.samples = c.samples ++ c.keptOf e.before ++ c'.keptOf e.after

theorem noted_record (c : Context) (note : Note) (change : Context → Context)
    (h : ∀ c samples, change { c with samples := samples } =
      { change c with samples := samples })
    (hevents : (change c).events = c.events) :
    c.Noted (c.record note change) (note.event c.measure (change c).measure) := by
  have hc : change (c.keepSample c.measure) =
      { change c with samples := c.samples ++ c.keptOf c.measure } := by
    rw [keepSample_eq_append, h]
  simp only [record, hc]
  rw [keepSample_eq_append]
  exact ⟨congrArg (· ++ _) hevents, rfl, rfl, rfl⟩

variable (c : Context)

theorem noted_withEntity (name : String) (attrs : Attributes) :
    ∃ e, c.Noted (c.withEntity name attrs) e := by
  -- The grant that is made first has no part in any reading.
  have h : Noted _ (c.withEntity name attrs) _ := noted_record _ _ _ (by intros; rfl) rfl
  exact ⟨_, h.events, h.before, h.after, h.samples⟩

theorem noted_withRelation (source target kind : String) (attrs : Attributes) :
    ∃ e, c.Noted (c.withRelation source target kind attrs) e := by
  have h : Noted c (c.withRelation source target kind attrs) _ :=
    noted_record _ _ _ (by intros; rfl) rfl
  exact ⟨_, h⟩

theorem noted_withAttributes (name : String) (attrs : Attributes) :
    ∃ e, c.Noted (c.withAttributes name attrs) e := by
  have h : Noted c (c.withAttributes name attrs) _ := noted_record _ _ _ (by intros; rfl) rfl
  exact ⟨_, h⟩

theorem noted_registerBlindSpot (key description : String) :
    ∃ e, c.Noted (c.registerBlindSpot key description) e := by
  have h : Noted c (c.registerBlindSpot key description) _ :=
    noted_record _ _ _ (by intros; rfl) rfl
  exact ⟨_, h⟩

theorem noted_recordTension (kind description : String) (entities : List String) :
    ∃ e, c.Noted (c.recordTension kind description entities) e := by
  have h : Noted c (c.recordTension kind description entities) _ :=
    noted_record _ _ _ (by intros; rfl) rfl
  exact ⟨_, h⟩

theorem noted_recordDialogue (prompt response : String) (intentions : List String) :
    ∃ e, c.Noted (c.recordDialogue prompt response intentions) e := by
  have h : Noted c (c.recordDialogue prompt response intentions) _ :=
    noted_record c _
      (fun c' => { c' with
        dialogues := c'.dialogues ++ [⟨prompt, response, intentions, c.measure⟩] })
      (by intros; rfl) rfl
  exact ⟨_, h⟩

theorem noted_setLifecycle? {c' : Context} {name status : String} {intentions : List String}
    (h : c.setLifecycle? name status intentions = some c') : ∃ e, c.Noted c' e := by
  simp only [setLifecycle?] at h
  split at h
  · rw [← Option.some.inj h]
    exact ⟨_, noted_record _ _ _ (by intros; rfl) rfl⟩
  · cases h

end GestureGraph.Context
