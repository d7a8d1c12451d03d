import GestureGraph.Proofs.Attributes
import GestureGraph.Proofs.Creation
import GestureGraph.Proofs.Run

namespace GestureGraph

/-- Keys that belong to contexts and events; no entity has them among its attributes. -/
def Attributes.ownKeys : List String := ["created_at", "lifecycle_status", "intention"]

namespace Context

structure EntityOk (name : String) (e : Entity) : Prop where
  name_eq : e.name = name
  attributes : ∀ key ∈ Attributes.ownKeys, e.attributes.get? key = none

structure RelationOk (c : Context) (source target : String) (r : Relation) : Prop where
  source_eq : r.source = source
  target_eq : r.target = target
  id_eq : r.id = Relation.idOf source target r.kind
  context_eq : r.context = c.name
  source_mem : c.contains source = true
  target_mem : c.contains target = true
  attributes : r.attributes.get? Attributes.intentionKey = none

structure WellFormed (c : Context) : Prop where
  entities : ∀ name e, c.entity? name = some e → EntityOk name e
  relations : ∀ source target r, c.relation? source target = some r → c.RelationOk source target r
  grants : ∀ name, c.contains name = true ↔ ∃ grant ∈ c.grants, grant.subject = name

variable {c c' : Context} {name : String}

theorem wellFormed_bare (name : String) (axioms : Axioms) (now : Nat) :
    (bare name axioms now).WellFormed where
  entities name e h := by cases h
  relations source target r h := by cases h
  grants name := by
    constructor
    · intro h
      cases h
    · rintro ⟨grant, h, _⟩
      cases h

theorem EntityOk.merge {e : Entity} (h : EntityOk name e) (attrs : Attributes) :
    EntityOk name (e.merge attrs.withoutIntentions) where
  name_eq := h.name_eq
  attributes key hkey := by
    have he := h.attributes key hkey
    simp only [Entity.merge, Attributes.get?_merge, Attributes.get?_withoutIntentions, he]
    simp only [Attributes.ownKeys, List.mem_cons, List.not_mem_nil, or_false] at hkey
    rcases hkey with rfl | rfl | rfl <;> rfl

theorem EntityOk.named (h : ∀ name e, c.entity? name = some e → EntityOk name e) (name : String) :
    EntityOk name (c.named name) := by
  simp only [Context.named]
  cases he : c.entity? name with
  | some e => exact h name e he
  | none => exact ⟨rfl, fun _ _ => rfl⟩

theorem Alteration.entityOk (h : Alteration c c')
    (hc : ∀ name e, c.entity? name = some e → EntityOk name e) {e : Entity}
    (he : c'.entity? name = some e) : EntityOk name e := by
  have he : c'.graph.nodes.get? name = some e := he
  rcases h.graph with ⟨hg, _⟩ | ⟨name', attrs, _, hn, _⟩ | ⟨s, t, kind, attrs, _, _, hn, _⟩ |
    ⟨name', f, hf, hn, _⟩
  · rw [hg] at he
    exact hc name e he
  · rw [hn, Table.get?_insert_eq] at he
    split at he
    · rename_i heq
      cases he
      rw [heq]
      exact (EntityOk.named hc name').merge attrs
    · exact hc name e he
  · rw [hn] at he
    exact hc name e he
  · rw [hn, Table.get?_modify] at he
    split at he
    · rename_i heq
      obtain ⟨e', he', rfl⟩ := Option.map_eq_some_iff.mp he
      have hok : EntityOk name e' := hc name e' (heq ▸ he')
      rcases hf with ⟨attrs, rfl⟩ | ⟨status, rfl⟩
      · exact hok.merge attrs
      · exact ⟨hok.name_eq, hok.attributes⟩
    · exact hc name e he

theorem RelationOk.transfer {source target : String} {r : Relation}
    (h : c.RelationOk source target r) (ha : Alteration c c') : c'.RelationOk source target r where
  source_eq := h.source_eq
  target_eq := h.target_eq
  id_eq := h.id_eq
  context_eq := h.context_eq.trans ha.frame.1.symm
  source_mem := ha.contains h.source_mem
  target_mem := ha.contains h.target_mem
  attributes := h.attributes

theorem relationOk_relationOf {source target : String} (hs : c.contains source = true)
    (ht : c.contains target = true) (kind : String) (attrs : Attributes) :
    c.RelationOk source target (c.relationOf source target kind attrs) :=
  ⟨rfl, rfl, rfl, rfl, hs, ht, by simp [relationOf, Attributes.get?_withoutIntentions]⟩

theorem Alteration.relationOk (h : Alteration c c')
    (hc : ∀ source target r, c.relation? source target = some r → c.RelationOk source target r)
    {source target : String} {r : Relation} (hr : c'.relation? source target = some r) :
    c'.RelationOk source target r := by
  have hr : c'.graph.edges.get? ⟨source, target⟩ = some r := hr
  have hold : c.graph.edges.get? ⟨source, target⟩ = some r → c'.RelationOk source target r :=
    fun hr => (hc source target r hr).transfer h
  rcases h.graph with ⟨hg, _⟩ | ⟨name, attrs, _, _, he, _⟩ |
    ⟨s, t, kind, attrs, hs, ht, _, he, _⟩ | ⟨name, f, _, _, he, _⟩
  · rw [hg] at hr
    exact hold hr
  · rw [he] at hr
    exact hold hr
  · rw [he, Table.get?_insert_eq] at hr
    split at hr
    · rename_i hends
      cases hends
      cases hr
      exact (relationOk_relationOf hs ht kind attrs).transfer h
    · exact hold hr
  · rw [he] at hr
    exact hold hr

theorem Alteration.contains_iff_granted (h : Alteration c c')
    (hc : ∀ name, c.contains name = true ↔ ∃ grant ∈ c.grants, grant.subject = name)
    (name : String) :
    c'.contains name = true ↔ ∃ grant ∈ c'.grants, grant.subject = name := by
  have hname : c.graph.nodes.contains name = true ↔ ∃ grant ∈ c.grants, grant.subject = name :=
    hc name
  show c'.graph.nodes.contains name = true ↔ _
  rcases h.graph with ⟨hg, hgrants⟩ | ⟨name', attrs, _, hn, _, hgrants⟩ |
    ⟨s, t, kind, attrs, _, _, hn, _, hgrants⟩ | ⟨name', f, _, hn, _, hgrants⟩
  · rw [hg, hgrants, hname]
  · rw [hn, hgrants, Table.contains_insert_iff, hname]
    simp only [List.mem_append, List.mem_singleton]
    constructor
    · rintro (rfl | ⟨grant, hmem, hsub⟩)
      · exact ⟨c.grantOf name, Or.inr rfl, rfl⟩
      · exact ⟨grant, Or.inl hmem, hsub⟩
    · rintro ⟨grant, hmem | rfl, hsub⟩
      · exact Or.inr ⟨grant, hmem, hsub⟩
      · exact Or.inl hsub.symm
  · rw [hn, hgrants, hname]
  · rw [hn, hgrants, Table.contains_modify, hname]

theorem WellFormed.alteration (hc : c.WellFormed) (h : Alteration c c') : c'.WellFormed where
  entities _ _ he := h.entityOk hc.entities he
  relations _ _ _ hr := h.relationOk hc.relations hr
  grants := h.contains_iff_granted hc.grants

theorem WellFormed.reaches (hc : c.WellFormed) (h : c.Reaches c') : c'.WellFormed := by
  induction h with
  | refl => exact hc
  | tail _ ha ih => exact ih.alteration ha

end Context

namespace Machine

theorem representation_is_well_formed {name : String} {axioms : Axioms} {now : Nat} {c : Context}
    (h : Context.create name axioms now = .ok c) {actions : List Action}
    (ha : ∀ a ∈ actions, a.Lawful Tame) :
    ∀ m ∈ stations actions { context := c },
      m.context.WellFormed ∧ ∀ op : Operator, m.context.contains op.glyph = true := by
  intro m hm
  have hreached := reaches_stations ha hm
  have hcreated := (Context.wellFormed_bare name axioms now).reaches (Context.reaches_of_create h)
  exact ⟨hcreated.reaches hreached, fun op => hreached.contains (Context.contains_of_create h op)⟩

theorem rehearsal_is_well_formed : ∃ c, Context.create "rehearsal" .builtIn 0 = .ok c ∧
    (∀ a ∈ rehearsal, a.Lawful Tame) ∧
    (perform rehearsal { context := c }).context.WellFormed ∧
    ∀ op : Operator, (perform rehearsal { context := c }).context.contains op.glyph = true := by
  obtain ⟨c, hc⟩ := Context.create_of_room "rehearsal" 0
    (show 6 ≤ Axioms.builtIn.limits.entities by decide)
  exact ⟨c, hc, lawful_rehearsal,
    representation_is_well_formed hc lawful_rehearsal _ (perform_mem_stations _ _)⟩

end Machine

end GestureGraph
