import GestureGraph.Proofs.Attributes
import GestureGraph.Proofs.Creation
import GestureGraph.Proofs.Run

namespace GestureGraph

theorem Attributes.contains_merge {attrs : Attributes} {key : String}
    (h : attrs.contains key = true) (more : Attributes) :
    (attrs.merge more).contains key = true := by
  simp only [Table.contains, get?_merge] at h ⊢
  split
  · exact h
  · cases more.get? key with
    | none => exact h
    | some v => rfl

namespace Event

def TellsStatus (name : String) (event : Event) : Prop :=
  (event.kind = .entityReturned ∨ event.kind = .lifecycleChanged) ∧ name ∈ event.affected

def TellsAttributes (name : String) (event : Event) : Prop :=
  (event.kind = .entityCreated ∨ event.kind = .entityEnriched) ∧ name ∈ event.affected

end Event

namespace Entity

structure Persists (name : String) (news : List Event) (e e' : Entity) : Prop where
  name_eq : e'.name = e.name
  createdAt_eq : e'.createdAt = e.createdAt
  keys : ∀ key, e.attributes.contains key = true → e'.attributes.contains key = true
  status : e'.status ≠ e.status → ∃ event ∈ news, event.TellsStatus name
  attributes : e'.attributes ≠ e.attributes → ∃ event ∈ news, event.TellsAttributes name

variable {name : String} {news more : List Event} {e e' e'' : Entity}

theorem persists_refl (name : String) (news : List Event) (e : Entity) : e.Persists name news e :=
  ⟨rfl, rfl, fun _ h => h, fun h => absurd rfl h, fun h => absurd rfl h⟩

theorem persists_merge {event : Event} (h : event.TellsAttributes name) (e : Entity)
    (attrs : Attributes) : e.Persists name [event] (e.merge attrs) where
  name_eq := rfl
  createdAt_eq := rfl
  keys _ hkey := Attributes.contains_merge hkey attrs
  status hne := absurd rfl hne
  attributes _ := ⟨event, List.mem_singleton.mpr rfl, h⟩

theorem persists_status {event : Event} (h : event.TellsStatus name) (e : Entity)
    (status : String) : e.Persists name [event] { e with status := status } where
  name_eq := rfl
  createdAt_eq := rfl
  keys _ hkey := hkey
  status _ := ⟨event, List.mem_singleton.mpr rfl, h⟩
  attributes hne := absurd rfl hne

theorem Persists.trans (h : e.Persists name news e') (h' : e'.Persists name more e'') :
    e.Persists name (news ++ more) e'' where
  name_eq := h'.name_eq.trans h.name_eq
  createdAt_eq := h'.createdAt_eq.trans h.createdAt_eq
  keys key hkey := h'.keys key (h.keys key hkey)
  status hne := by
    by_cases heq : e''.status = e'.status
    · obtain ⟨event, hmem, ht⟩ := h.status (heq ▸ hne)
      exact ⟨event, List.mem_append_left _ hmem, ht⟩
    · obtain ⟨event, hmem, ht⟩ := h'.status heq
      exact ⟨event, List.mem_append_right _ hmem, ht⟩
  attributes hne := by
    by_cases heq : e''.attributes = e'.attributes
    · obtain ⟨event, hmem, ht⟩ := h.attributes (heq ▸ hne)
      exact ⟨event, List.mem_append_left _ hmem, ht⟩
    · obtain ⟨event, hmem, ht⟩ := h'.attributes heq
      exact ⟨event, List.mem_append_right _ hmem, ht⟩

end Entity

namespace Context

variable {c c' c'' : Context}

def newsSince (c c' : Context) : List Event := c'.events.drop c.events.length

structure Extends (c c' : Context) : Prop where
  events : c.events <+: c'.events
  grants : c.grants <+: c'.grants
  tensions : c.tensions <+: c'.tensions
  dialogues : c.dialogues <+: c'.dialogues
  samples : c.samples <+: c'.samples
  edges : ∀ ends, c.graph.edges.contains ends = true → c'.graph.edges.contains ends = true
  blindSpots : ∀ key, c.blindSpots.contains key = true → c'.blindSpots.contains key = true
  entities : ∀ name e, c.entity? name = some e →
    ∃ e', c'.entity? name = some e' ∧ e.Persists name (c.newsSince c') e'
  name_eq : c'.name = c.name
  createdAt_eq : c'.createdAt = c.createdAt
  axioms_eq : c'.axioms = c.axioms

theorem newsSince_of_append {news : List Event} (h : c'.events = c.events ++ news) :
    c.newsSince c' = news := by rw [newsSince, h, List.drop_left]

theorem newsSince_trans (h : c.events <+: c'.events) (h' : c'.events <+: c''.events) :
    c.newsSince c'' = c.newsSince c' ++ c'.newsSince c'' := by
  obtain ⟨news, hnews⟩ := h
  obtain ⟨more, hmore⟩ := h'
  rw [newsSince_of_append hnews.symm, newsSince_of_append hmore.symm]
  exact newsSince_of_append (by rw [← hmore, ← hnews, List.append_assoc])

theorem extends_refl (c : Context) : c.Extends c where
  events := List.prefix_rfl
  grants := List.prefix_rfl
  tensions := List.prefix_rfl
  dialogues := List.prefix_rfl
  samples := List.prefix_rfl
  edges _ h := h
  blindSpots _ h := h
  entities name e h := ⟨e, h, e.persists_refl name _⟩
  name_eq := rfl
  createdAt_eq := rfl
  axioms_eq := rfl

theorem Extends.trans (h : c.Extends c') (h' : c'.Extends c'') : c.Extends c'' where
  events := h.events.trans h'.events
  grants := h.grants.trans h'.grants
  tensions := h.tensions.trans h'.tensions
  dialogues := h.dialogues.trans h'.dialogues
  samples := h.samples.trans h'.samples
  edges ends hends := h'.edges ends (h.edges ends hends)
  blindSpots key hkey := h'.blindSpots key (h.blindSpots key hkey)
  entities name e he := by
    obtain ⟨e', he', hp⟩ := h.entities name e he
    obtain ⟨e'', he'', hp'⟩ := h'.entities name e' he'
    exact ⟨e'', he'', newsSince_trans h.events h'.events ▸ hp.trans hp'⟩
  name_eq := h'.name_eq.trans h.name_eq
  createdAt_eq := h'.createdAt_eq.trans h.createdAt_eq
  axioms_eq := h'.axioms_eq.trans h.axioms_eq

theorem Alteration.grants (h : c.Alteration c') : c.grants <+: c'.grants := by
  rcases h.graph with ⟨_, hg⟩ | ⟨name, attrs, _, _, _, hg⟩ | ⟨s, t, kind, attrs, _, _, _, _, hg⟩ |
    ⟨name, f, _, _, _, hg⟩
  · exact hg ▸ List.prefix_rfl
  · exact ⟨_, hg.symm⟩
  · exact hg ▸ List.prefix_rfl
  · exact hg ▸ List.prefix_rfl

theorem Alteration.edges (h : c.Alteration c') {ends : Ends}
    (hends : c.graph.edges.contains ends = true) : c'.graph.edges.contains ends = true := by
  rcases h.graph with ⟨hg, _⟩ | ⟨name, attrs, _, _, he, _⟩ | ⟨s, t, kind, attrs, _, _, _, he, _⟩ |
    ⟨name, f, _, _, he, _⟩
  · rwa [hg]
  · rwa [he]
  · rw [he, Table.contains_insert_iff]
    exact Or.inr hends
  · rwa [he]

theorem Alteration.samples (h : c.Alteration c') : c.samples <+: c'.samples := by
  rcases h.cases with rfl | hd | hs
  · exact ⟨_, c.sampled_silent.2.2.symm⟩
  · obtain ⟨e, he⟩ := hd.noted
    rw [he.samples, List.append_assoc]
    exact List.prefix_append _ _
  · exact hs.silent.2.2 ▸ List.prefix_rfl

theorem Alteration.lists (h : c.Alteration c') :
    c.tensions <+: c'.tensions ∧ c.dialogues <+: c'.dialogues ∧
      ∀ key, c.blindSpots.contains key = true → c'.blindSpots.contains key = true := by
  cases h with
  | sample =>
      obtain ⟨samples, h⟩ := c.sampled_eq
      simp [h]
  | entity name attrs room =>
      obtain ⟨samples, coherence, h⟩ := c.withEntity_eq name attrs
      simp [h]
  | relation source target kind attrs hs ht =>
      obtain ⟨samples, coherence, h⟩ := c.withRelation_eq source target kind attrs
      simp [h]
  | attributes name attrs hn =>
      obtain ⟨samples, coherence, h⟩ := c.withAttributes_eq name attrs
      simp [h]
  | blindSpot key description =>
      obtain ⟨samples, coherence, h⟩ := c.registerBlindSpot_eq key description
      rw [h]
      exact ⟨List.prefix_rfl, List.prefix_rfl,
        fun k hk => (Table.contains_insert_iff _ _ _ _).mpr (Or.inr hk)⟩
  | tension kind description entities =>
      obtain ⟨samples, coherence, h⟩ := c.recordTension_eq kind description entities
      simp [h]
  | dialogue prompt response intentions =>
      obtain ⟨samples, coherence, h⟩ := c.recordDialogue_eq prompt response intentions
      simp [h]
  | lifecycle name status intentions h =>
      obtain ⟨_, samples, coherence, h⟩ := c.setLifecycle?_eq h
      simp [h]
  | fairCare => exact ⟨List.prefix_rfl, List.prefix_rfl, fun _ h => h⟩
  | operator id => exact ⟨List.prefix_rfl, List.prefix_rfl, fun _ h => h⟩
  | clock now => exact ⟨List.prefix_rfl, List.prefix_rfl, fun _ h => h⟩

theorem Alteration.nodes_told (h : c.Alteration c') :
    c'.graph.nodes = c.graph.nodes ∨
    ∃ (name : String) (event : Event) (f : Entity → Entity),
      c'.events = c.events ++ [event] ∧
      (∀ other, other ≠ name → c'.entity? other = c.entity? other) ∧
      (∀ e, c.entity? name = some e → c'.entity? name = some (f e)) ∧
      ∀ e : Entity, e.Persists name [event] (f e) := by
  cases h with
  | entity name attrs room =>
      obtain ⟨samples, coherence, h⟩ := c.withEntity_eq name attrs
      refine Or.inr ⟨name, _, (·.merge attrs.withoutIntentions), by rw [h], fun other hne => ?_,
        fun e he => ?_, fun e => e.persists_merge ⟨Or.inl rfl, List.mem_singleton.mpr rfl⟩ _⟩
      · simp [h, entity?, Table.get?_insert_eq, hne]
      · simp [h, entity?, named, show c.graph.nodes.get? name = some e from he]
  | attributes name attrs hn =>
      obtain ⟨samples, coherence, h⟩ := c.withAttributes_eq name attrs
      refine Or.inr ⟨name, _, (·.merge attrs.withoutIntentions), by rw [h], fun other hne => ?_,
        fun e he => ?_, fun e => e.persists_merge ⟨Or.inr rfl, List.mem_singleton.mpr rfl⟩ _⟩
      · simp [h, entity?, Table.get?_modify, hne]
      · simp [h, entity?, Table.get?_modify, show c.graph.nodes.get? name = some e from he]
  | lifecycle name status intentions h =>
      obtain ⟨_, samples, coherence, h⟩ := c.setLifecycle?_eq h
      refine Or.inr ⟨name, _, ({ · with status := status }), by rw [h], fun other hne => ?_,
        fun e he => ?_, fun e => e.persists_status ⟨?_, List.mem_singleton.mpr rfl⟩ status⟩
      · simp [h, entity?, Table.get?_modify, hne]
      · simp [h, entity?, Table.get?_modify, show c.graph.nodes.get? name = some e from he]
      · simp only [lifecycleKind]
        split
        · exact Or.inl rfl
        · exact Or.inr rfl
  | sample =>
      obtain ⟨samples, h⟩ := c.sampled_eq
      exact Or.inl (by rw [h])
  | relation source target kind attrs hs ht =>
      obtain ⟨samples, coherence, h⟩ := c.withRelation_eq source target kind attrs
      exact Or.inl (by rw [h])
  | blindSpot key description =>
      obtain ⟨samples, coherence, h⟩ := c.registerBlindSpot_eq key description
      exact Or.inl (by rw [h])
  | tension kind description entities =>
      obtain ⟨samples, coherence, h⟩ := c.recordTension_eq kind description entities
      exact Or.inl (by rw [h])
  | dialogue prompt response intentions =>
      obtain ⟨samples, coherence, h⟩ := c.recordDialogue_eq prompt response intentions
      exact Or.inl (by rw [h])
  | fairCare => exact Or.inl rfl
  | operator id => exact Or.inl rfl
  | clock now => exact Or.inl rfl

theorem Alteration.entities (h : c.Alteration c') {name : String} {e : Entity}
    (he : c.entity? name = some e) :
    ∃ e', c'.entity? name = some e' ∧ e.Persists name (c.newsSince c') e' := by
  rcases h.nodes_told with hn | ⟨name', event, f, hevents, hother, hself, hpersists⟩
  · exact ⟨e, by rw [entity?, hn, ← entity?, he], e.persists_refl name _⟩
  · by_cases heq : name = name'
    · subst heq
      exact ⟨f e, hself e he, newsSince_of_append hevents ▸ hpersists e⟩
    · exact ⟨e, (hother name heq).trans he, e.persists_refl name _⟩

theorem Alteration.extends (h : c.Alteration c') : c.Extends c' where
  events := h.events
  grants := h.grants
  tensions := h.lists.1
  dialogues := h.lists.2.1
  samples := h.samples
  edges _ hends := h.edges hends
  blindSpots := h.lists.2.2
  entities _ _ he := h.entities he
  name_eq := h.frame.1
  createdAt_eq := h.frame.2.1
  axioms_eq := h.frame.2.2

theorem Reaches.extends (h : c.Reaches c') : c.Extends c' := by
  induction h with
  | refl => exact c.extends_refl
  | tail _ ha ih => exact ih.trans ha.extends

end Context

namespace Machine

theorem action_removes_nothing {m : Machine} (hm : m.Confined Tame) {a : Action}
    (ha : a.Lawful Tame) :
    m.context.Extends (a.apply m).context ∧
      ∀ t ∈ a.trail m, m.context.Extends t.machine.context := by
  refine ⟨?_, fun t ht => ?_⟩
  · exact Context.Reaches.extends (Action.onCourse_apply hm ha).reached
  · exact Context.Reaches.extends (Action.onCourse_trail hm ht).reached

def nameless : Action :=
  .evaluate [] (.list [.str "∇", .list [.str "Α", .str "a"], .list [.str "Ω", .nil]])

theorem nameless_removes_nothing : ∃ c, Context.create "rehearsal" .builtIn 0 = .ok c ∧
    (perform rehearsal { context := c }).Confined Tame ∧ nameless.Lawful Tame ∧
    (perform rehearsal { context := c }).context.Extends
      (nameless.apply (perform rehearsal { context := c })).context := by
  obtain ⟨c, hc⟩ := Context.create_of_room "rehearsal" 0
    (show 6 ≤ Axioms.builtIn.limits.entities by decide)
  have hconfined : (perform rehearsal { context := c }).Confined Tame :=
    (onCourse_perform lawful_rehearsal (confined_fresh @tame_of_does c)).confined
  have hlawful : nameless.Lawful Tame := trivial
  exact ⟨c, hc, hconfined, hlawful, (action_removes_nothing hconfined hlawful).1⟩

end Machine

end GestureGraph
