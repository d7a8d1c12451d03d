import GestureGraph.Proofs.Reading
import GestureGraph.Proofs.Table
import GestureGraph.Proofs.Trail
import Mathlib.Logic.Relation

/-!
Alterations: the smallest changes that contexts go through, each under the condition it is made
under. Every change of a context and every act of the operators is a sequence of them.
-/

open Relation (ReflTransGen)

namespace GestureGraph

section keeping

variable {ε σ α β : Type}

def Keeps (R : σ → σ → Prop) (x : EStateM ε σ α) : Prop := ∀ s, R s (after (x s))

variable {r : σ → σ → Prop}

theorem keeps_of_cases {x : EStateM ε σ α}
    (h : ∀ s, (∃ a s', x s = .ok a s' ∧ ReflTransGen r s s') ∨
      ∃ e s', x s = .error e s' ∧ ReflTransGen r s s') : Keeps (ReflTransGen r) x := by
  intro s
  rcases h s with ⟨a, s', hx, hr⟩ | ⟨e, s', hx, hr⟩
  · rwa [hx]
  · rwa [hx]

theorem Keeps.mono {r' : σ → σ → Prop} {x : EStateM ε σ α} (h : Keeps (ReflTransGen r) x)
    (hr : ∀ s s', r s s' → r' s s') : Keeps (ReflTransGen r') x :=
  fun s => ReflTransGen.mono hr s _ (h s)

theorem keeps_pure (a : α) : Keeps (ReflTransGen r) (pure a : EStateM ε σ α) := fun _ => .refl

theorem keeps_throw (e : ε) : Keeps (ReflTransGen r) (throw e : EStateM ε σ α) := fun _ => .refl

theorem keeps_modify {f : σ → σ} (h : ∀ s, ReflTransGen r s (f s)) :
    Keeps (ReflTransGen r) (modify f : EStateM ε σ PUnit) := h

theorem keeps_get : Keeps (ReflTransGen r) (get : EStateM ε σ σ) := fun _ => .refl

theorem keeps_bind {x : EStateM ε σ α} {f : α → EStateM ε σ β}
    (hx : Keeps (ReflTransGen r) x) (hf : ∀ a, Keeps (ReflTransGen r) (f a)) :
    Keeps (ReflTransGen r) (x >>= f) := by
  intro s
  have hs := hx s
  cases h : x s with
  | error e s' =>
      rw [h] at hs
      rwa [bind_of_error h]
  | ok a s' =>
      rw [h] at hs
      rw [bind_of_ok h]
      exact ReflTransGen.trans hs (hf a s')

theorem keeps_discard {x : EStateM ε σ α} (h : Keeps (ReflTransGen r) x) :
    Keeps (ReflTransGen r) (discard x) := keeps_bind h fun _ => keeps_pure _

theorem keeps_forM {γ : Type} {f : γ → EStateM ε σ PUnit} (l : List γ)
    (h : ∀ a ∈ l, Keeps (ReflTransGen r) (f a)) : Keeps (ReflTransGen r) (l.forM f) := by
  induction l with
  | nil => exact keeps_pure _
  | cons a rest ih =>
      exact keeps_bind (h a List.mem_cons_self) fun _ =>
        ih fun b hb => h b (List.mem_cons_of_mem a hb)

end keeping

namespace Context

inductive Alteration : Context → Context → Prop
  | sample (c : Context) : Alteration c c.sampled
  | entity (c : Context) (name : String) (attrs : Attributes)
      (room : c.nodeCount + 1 ≤ c.axioms.limits.entities) :
      Alteration c (c.withEntity name attrs)
  | relation (c : Context) (source target kind : String) (attrs : Attributes)
      (hs : c.contains source = true) (ht : c.contains target = true) :
      Alteration c (c.withRelation source target kind attrs)
  | attributes (c : Context) (name : String) (attrs : Attributes) (h : c.contains name = true) :
      Alteration c (c.withAttributes name attrs)
  | blindSpot (c : Context) (key description : String) :
      Alteration c (c.registerBlindSpot key description)
  | tension (c : Context) (kind description : String) (entities : List String) :
      Alteration c (c.recordTension kind description entities)
  | dialogue (c : Context) (prompt response : String) (intentions : List String) :
      Alteration c (c.recordDialogue prompt response intentions)
  | lifecycle {c c' : Context} (name status : String) (intentions : List String)
      (h : c.setLifecycle? name status intentions = some c') : Alteration c c'
  | fairCare (c : Context) : Alteration c c.enableFairCare
  | operator (c : Context) (id : String) : Alteration c (c.setOperator id)
  | clock (c : Context) (now : Nat) : Alteration c { c with now := now }

abbrev Reaches : Context → Context → Prop := ReflTransGen Alteration

/-- A change that an event tells of, with the two readings of the event and no others. -/
structure Deed (c c' : Context) : Prop where
  alteration : Alteration c c'
  noted : ∃ e, c.Noted c' e

abbrev Does : Context → Context → Prop := ReflTransGen Deed

theorem Does.reaches {c c' : Context} (h : c.Does c') : c.Reaches c' :=
  ReflTransGen.mono (fun _ _ hd => hd.alteration) c c' h

section deeds

variable (c : Context)

theorem deed_withEntity {name : String} {attrs : Attributes}
    (room : c.nodeCount + 1 ≤ c.axioms.limits.entities) : c.Deed (c.withEntity name attrs) :=
  ⟨.entity c name attrs room, c.noted_withEntity name attrs⟩

theorem deed_withRelation {source target kind : String} {attrs : Attributes}
    (hs : c.contains source = true) (ht : c.contains target = true) :
    c.Deed (c.withRelation source target kind attrs) :=
  ⟨.relation c source target kind attrs hs ht, c.noted_withRelation source target kind attrs⟩

theorem deed_withAttributes {name : String} {attrs : Attributes} (h : c.contains name = true) :
    c.Deed (c.withAttributes name attrs) :=
  ⟨.attributes c name attrs h, c.noted_withAttributes name attrs⟩

theorem deed_registerBlindSpot (key description : String) :
    c.Deed (c.registerBlindSpot key description) :=
  ⟨.blindSpot c key description, c.noted_registerBlindSpot key description⟩

theorem deed_recordTension (kind description : String) (entities : List String) :
    c.Deed (c.recordTension kind description entities) :=
  ⟨.tension c kind description entities, c.noted_recordTension kind description entities⟩

theorem deed_recordDialogue (prompt response : String) (intentions : List String) :
    c.Deed (c.recordDialogue prompt response intentions) :=
  ⟨.dialogue c prompt response intentions, c.noted_recordDialogue prompt response intentions⟩

theorem deed_setLifecycle? {c' : Context} {name status : String} {intentions : List String}
    (h : c.setLifecycle? name status intentions = some c') : c.Deed c' :=
  ⟨.lifecycle name status intentions h, c.noted_setLifecycle? h⟩

end deeds

def grantOf (c : Context) (name : String) : Grant :=
  ⟨name, "to_exist", c.operator?.getD "system", c.name⟩

def relationOf (c : Context) (source target kind : String) (attrs : Attributes) : Relation :=
  ⟨Relation.idOf source target kind, source, target, kind, attrs.intentions, c.name,
    attrs.withoutIntentions⟩

theorem Alteration.graph {c c' : Context} (h : Alteration c c') :
    (c'.graph = c.graph ∧ c'.grants = c.grants) ∨
    (∃ (name : String) (attrs : Attributes),
      c.nodeCount + 1 ≤ c.axioms.limits.entities ∧
      c'.graph.nodes =
        c.graph.nodes.insert name ((c.named name).merge attrs.withoutIntentions) ∧
      c'.graph.edges = c.graph.edges ∧ c'.grants = c.grants ++ [c.grantOf name]) ∨
    (∃ (source target kind : String) (attrs : Attributes),
      c.contains source = true ∧ c.contains target = true ∧
      c'.graph.nodes = c.graph.nodes ∧
      c'.graph.edges =
        c.graph.edges.insert ⟨source, target⟩ (c.relationOf source target kind attrs) ∧
      c'.grants = c.grants) ∨
    ∃ (name : String) (f : Entity → Entity),
      ((∃ attrs : Attributes, f = fun e => e.merge attrs.withoutIntentions) ∨
        ∃ status, f = fun e => { e with status := status }) ∧
      c'.graph.nodes = c.graph.nodes.modify name f ∧
      c'.graph.edges = c.graph.edges ∧ c'.grants = c.grants := by
  cases h with
  | sample =>
      obtain ⟨samples, h⟩ := c.sampled_eq
      exact Or.inl (by simp [h])
  | entity name attrs room =>
      obtain ⟨samples, coherence, h⟩ := c.withEntity_eq name attrs
      refine Or.inr (Or.inl ⟨name, attrs, room, ?_⟩)
      rw [h]
      exact ⟨rfl, rfl, rfl⟩
  | relation source target kind attrs hs ht =>
      obtain ⟨samples, coherence, h⟩ := c.withRelation_eq source target kind attrs
      refine Or.inr (Or.inr (Or.inl ⟨source, target, kind, attrs, hs, ht, ?_⟩))
      rw [h]
      exact ⟨rfl, rfl, rfl⟩
  | attributes name attrs hn =>
      obtain ⟨samples, coherence, h⟩ := c.withAttributes_eq name attrs
      refine Or.inr (Or.inr (Or.inr ⟨name, _, Or.inl ⟨attrs, rfl⟩, ?_⟩))
      rw [h]
      exact ⟨rfl, rfl, rfl⟩
  | blindSpot key description =>
      obtain ⟨samples, coherence, h⟩ := c.registerBlindSpot_eq key description
      exact Or.inl (by simp [h])
  | tension kind description entities =>
      obtain ⟨samples, coherence, h⟩ := c.recordTension_eq kind description entities
      exact Or.inl (by simp [h])
  | dialogue prompt response intentions =>
      obtain ⟨samples, coherence, h⟩ := c.recordDialogue_eq prompt response intentions
      exact Or.inl (by simp [h])
  | lifecycle name status intentions h =>
      obtain ⟨_, samples, coherence, h⟩ := c.setLifecycle?_eq h
      refine Or.inr (Or.inr (Or.inr ⟨name, _, Or.inr ⟨status, rfl⟩, ?_⟩))
      rw [h]
      exact ⟨rfl, rfl, rfl⟩
  | fairCare => exact Or.inl ⟨rfl, rfl⟩
  | operator id => exact Or.inl ⟨rfl, rfl⟩
  | clock now => exact Or.inl ⟨rfl, rfl⟩

theorem Alteration.nodes {c c' : Context} (h : Alteration c c') :
    c'.graph.nodes = c.graph.nodes ∨
    (∃ name e, c'.graph.nodes = c.graph.nodes.insert name e ∧
      c.nodeCount + 1 ≤ c.axioms.limits.entities) ∨
    ∃ name f, c'.graph.nodes = c.graph.nodes.modify name f := by
  rcases h.graph with ⟨hg, _⟩ | ⟨name, attrs, room, hn, _⟩ |
    ⟨source, target, kind, attrs, _, _, hn, _⟩ | ⟨name, f, _, hn, _⟩
  · exact Or.inl (by rw [hg])
  · exact Or.inr (Or.inl ⟨name, _, hn, room⟩)
  · exact Or.inl hn
  · exact Or.inr (Or.inr ⟨name, f, hn⟩)

theorem Alteration.frame {c c' : Context} (h : Alteration c c') :
    c'.name = c.name ∧ c'.createdAt = c.createdAt ∧ c'.axioms = c.axioms := by
  cases h with
  | sample =>
      obtain ⟨samples, h⟩ := c.sampled_eq
      simp [h]
  | entity name attrs room =>
      obtain ⟨samples, coherence, h⟩ := c.withEntity_eq name attrs
      simp [h]
  | relation source target kind attrs hs ht =>
      obtain ⟨samples, coherence, h⟩ := c.withRelation_eq source target kind attrs
      simp [h]
  | attributes name attrs hn =>
      obtain ⟨samples, coherence, h⟩ := c.withAttributes_eq name attrs
      simp [h]
  | blindSpot key description =>
      obtain ⟨samples, coherence, h⟩ := c.registerBlindSpot_eq key description
      simp [h]
  | tension kind description entities =>
      obtain ⟨samples, coherence, h⟩ := c.recordTension_eq kind description entities
      simp [h]
  | dialogue prompt response intentions =>
      obtain ⟨samples, coherence, h⟩ := c.recordDialogue_eq prompt response intentions
      simp [h]
  | lifecycle name status intentions h =>
      obtain ⟨_, samples, coherence, h⟩ := c.setLifecycle?_eq h
      simp [h]
  | fairCare => exact ⟨rfl, rfl, rfl⟩
  | operator id => exact ⟨rfl, rfl, rfl⟩
  | clock now => exact ⟨rfl, rfl, rfl⟩

theorem Reaches.frame {c c' : Context} (h : c.Reaches c') :
    c'.name = c.name ∧ c'.createdAt = c.createdAt ∧ c'.axioms = c.axioms := by
  induction h with
  | refl => exact ⟨rfl, rfl, rfl⟩
  | tail _ ha ih =>
      obtain ⟨hn, ht, hx⟩ := ha.frame
      exact ⟨hn.trans ih.1, ht.trans ih.2.1, hx.trans ih.2.2⟩

theorem Alteration.contains {c c' : Context} (h : Alteration c c') {name : String}
    (hn : c.contains name = true) : c'.contains name = true := by
  show c'.graph.nodes.contains name = true
  rcases h.nodes with h | ⟨name', e, h, _⟩ | ⟨name', f, h⟩
  · rw [h]
    exact hn
  · rw [h, Table.contains_insert_iff]
    exact Or.inr hn
  · rw [h, Table.contains_modify]
    exact hn

theorem Reaches.contains {c c' : Context} (h : c.Reaches c') {name : String}
    (hn : c.contains name = true) : c'.contains name = true := by
  induction h with
  | refl => exact hn
  | tail _ ha ih => exact ha.contains ih

/-- A change that touches nothing events tell of. -/
inductive Setting : Context → Context → Prop
  | fairCare (c : Context) : Setting c c.enableFairCare
  | operator (c : Context) (id : String) : Setting c (c.setOperator id)
  | clock (c : Context) (now : Nat) : Setting c { c with now := now }

theorem Alteration.cases {c c' : Context} (h : c.Alteration c') :
    c' = c.sampled ∨ c.Deed c' ∨ c.Setting c' := by
  cases h with
  | sample => exact Or.inl rfl
  | entity name attrs room => exact Or.inr (Or.inl (c.deed_withEntity room))
  | relation source target kind attrs hs ht => exact Or.inr (Or.inl (c.deed_withRelation hs ht))
  | attributes name attrs hn => exact Or.inr (Or.inl (c.deed_withAttributes hn))
  | blindSpot key description => exact Or.inr (Or.inl (c.deed_registerBlindSpot key description))
  | tension kind description entities =>
      exact Or.inr (Or.inl (c.deed_recordTension kind description entities))
  | dialogue prompt response intentions =>
      exact Or.inr (Or.inl (c.deed_recordDialogue prompt response intentions))
  | lifecycle name status intentions h => exact Or.inr (Or.inl (c.deed_setLifecycle? h))
  | fairCare => exact Or.inr (Or.inr (.fairCare c))
  | operator id => exact Or.inr (Or.inr (.operator c id))
  | clock now => exact Or.inr (Or.inr (.clock c now))

theorem Setting.alteration {c c' : Context} (h : c.Setting c') : c.Alteration c' := by
  cases h with
  | fairCare => exact .fairCare c
  | operator id => exact .operator c id
  | clock now => exact .clock c now

theorem Setting.silent {c c' : Context} (h : c.Setting c') :
    c'.events = c.events ∧ c'.measure = c.measure ∧ c'.samples = c.samples := by
  cases h <;> exact ⟨rfl, rfl, rfl⟩

theorem sampled_silent (c : Context) :
    c.sampled.events = c.events ∧ c.sampled.measure = c.measure ∧
      c.sampled.samples = c.samples ++ c.keptOf c.measure := by
  rw [sampled_eq_append]
  exact ⟨rfl, rfl, rfl⟩

theorem Alteration.events {c c' : Context} (h : Alteration c c') : c.events <+: c'.events := by
  rcases h.cases with rfl | hd | hs
  · exact c.sampled_silent.1 ▸ List.prefix_rfl
  · obtain ⟨e, he⟩ := hd.noted
    exact ⟨[e], he.events.symm⟩
  · exact hs.silent.1 ▸ List.prefix_rfl

theorem Reaches.events {c c' : Context} (h : c.Reaches c') : c.events <+: c'.events := by
  induction h with
  | refl => exact List.prefix_rfl
  | tail _ ha ih => exact ih.trans ha.events

theorem ensureRoom_cases (names : List String) (c : Context) :
    ensureRoom names c = .ok () c ∨ ∃ e, ensureRoom names c = .error e c := by
  simp only [ensureRoom]
  split
  · exact Or.inl rfl
  · split
    · exact Or.inr ⟨_, rfl⟩
    · exact Or.inl rfl

theorem addEntity_cases (name : String) (attrs : Attributes) (c : Context) :
    (addEntity name attrs c = .ok name (c.withEntity name attrs) ∧
      c.nodeCount + 1 ≤ c.axioms.limits.entities) ∨
    ∃ e, addEntity name attrs c = .error e c := by
  simp only [addEntity]
  cases h : c.axioms.limits.checkEntities (c.nodeCount + 1) with
  | error e => exact Or.inr ⟨e, rfl⟩
  | ok a => exact Or.inl ⟨rfl, Limits.checkEntities_eq_ok_iff.mp h⟩

theorem ok_of_addEntity {name a : String} {attrs : Attributes} {c t : Context}
    (h : addEntity name attrs c = .ok a t) : t = c.withEntity name attrs := by
  rcases addEntity_cases name attrs c with ⟨he, _⟩ | ⟨e, he⟩
  · rw [he] at h
    cases h
    rfl
  · rw [he] at h
    cases h

theorem keeps_reaches {ε α : Type} {x : EStateM ε Context α} (h : Keeps Does x) :
    Keeps Reaches x := h.mono fun _ _ hd => hd.alteration

theorem keeps_ensureRoom (names : List String) : Keeps Does (ensureRoom names) := by
  apply keeps_of_cases
  intro c
  rcases ensureRoom_cases names c with h | ⟨e, h⟩
  · exact Or.inl ⟨(), c, h, .refl⟩
  · exact Or.inr ⟨e, c, h, .refl⟩

theorem keeps_addEntity (name : String) (attrs : Attributes) :
    Keeps Does (addEntity name attrs) := by
  apply keeps_of_cases
  intro c
  rcases addEntity_cases name attrs c with ⟨h, room⟩ | ⟨e, h⟩
  · exact Or.inl ⟨name, _, h, .single (c.deed_withEntity room)⟩
  · exact Or.inr ⟨e, c, h, .refl⟩

theorem contains_withEntity (c : Context) (name : String) (attrs : Attributes) :
    (c.withEntity name attrs).contains name = true := by
  obtain ⟨samples, coherence, h⟩ := c.withEntity_eq name attrs
  rw [h]
  exact (Table.contains_insert_iff _ _ _ _).mpr (Or.inl rfl)

theorem run_if_missing (name : String) (x : Change Unit) (c : Context) :
    (do if !(← get).contains name then x : Change Unit) c =
      if c.contains name then .ok () c else x c := by
  have heq : (do if !(← get).contains name then x : Change Unit) c =
      (if !c.contains name then x else pure PUnit.unit : Change PUnit) c := rfl
  rw [heq]
  cases c.contains name with
  | true => rfl
  | false => rfl

theorem addMissing_eq (name : String) (c : Context) :
    addMissing name c = if c.contains name then .ok () c else discard (addEntity name {}) c :=
  run_if_missing name _ c

theorem addMissing_cases (name : String) (c : Context) :
    (∃ c', addMissing name c = .ok () c' ∧ c.Does c' ∧ c'.contains name = true) ∨
    ∃ e, addMissing name c = .error e c ∧ addEntity name {} c = .error e c := by
  rw [addMissing_eq]
  cases hc : c.contains name with
  | true => exact Or.inl ⟨c, rfl, .refl, hc⟩
  | false =>
      rcases addEntity_cases name {} c with ⟨h, room⟩ | ⟨e, h⟩
      · refine Or.inl ⟨c.withEntity name {}, ?_, .single (c.deed_withEntity room), ?_⟩
        · exact bind_of_ok h _
        · exact c.contains_withEntity name {}
      · exact Or.inr ⟨e, bind_of_error h _, h⟩

theorem keeps_addRelation (source target kind : String) (attrs : Attributes) :
    Keeps Does (addRelation source target kind attrs) := by
  apply keeps_of_cases
  intro c
  rcases ensureRoom_cases [source, target] c with hroom | ⟨e, hroom⟩
  · rcases addMissing_cases source c with ⟨c₁, hs, hr₁, hc₁⟩ | ⟨e, hs, _⟩
    · rcases addMissing_cases target c₁ with ⟨c₂, ht, hr₂, hc₂⟩ | ⟨e, ht, _⟩
      · refine Or.inl ⟨Relation.idOf source target kind, c₂.withRelation source target kind attrs,
          ?_, (hr₁.trans hr₂).tail (c₂.deed_withRelation (hr₂.reaches.contains hc₁) hc₂)⟩
        rw [addRelation, bind_of_ok hroom, bind_of_ok hs, bind_of_ok ht]
        rfl
      · refine Or.inr ⟨e, c₁, ?_, hr₁⟩
        rw [addRelation, bind_of_ok hroom, bind_of_ok hs, bind_of_error ht]
    · refine Or.inr ⟨e, c, ?_, .refl⟩
      rw [addRelation, bind_of_ok hroom, bind_of_error hs]
  · refine Or.inr ⟨e, c, ?_, .refl⟩
    rw [addRelation, bind_of_error hroom]

theorem keeps_enrich (name : String) (attrs : Attributes) :
    Keeps Does (enrich name attrs) := by
  apply keeps_of_cases
  intro c
  rcases addMissing_cases name c with ⟨c', h, hr, hc⟩ | ⟨e, h, _⟩
  · refine Or.inl ⟨name, c'.withAttributes name attrs, ?_, hr.tail (c'.deed_withAttributes hc)⟩
    rw [enrich, bind_of_ok h]
    rfl
  · refine Or.inr ⟨e, c, ?_, .refl⟩
    rw [enrich, bind_of_error h]

end Context

open Context

theorem Change.ok_of_act {α : Type} {x : Change α} {c t : Context} {a : α}
    (h : x.act c = .ok a t) : x c = .ok a t := by
  simp only [Change.act] at h
  cases hx : x c with
  | ok a' c' =>
      rw [hx] at h
      cases h
      rfl
  | error e c' =>
      rw [hx] at h
      cases h

theorem keeps_act {α : Type} {r : Context → Context → Prop} {x : Change α}
    (h : Keeps (ReflTransGen r) x) : Keeps (ReflTransGen r) x.act := by
  intro c
  have hc := h c
  rw [Change.act]
  cases hx : x c with
  | ok a c' =>
      rw [hx] at hc
      exact hc
  | error e c' =>
      rw [hx] at hc
      exact hc

namespace Call

theorem keeps_requireOperands (call : Call) (least : Nat) :
    Keeps Does (call.requireOperands least) := by
  simp only [requireOperands]
  split
  · exact keeps_throw _
  · exact keeps_pure _

theorem keeps_nameOf (call : Call) (v : Value) : Keeps Does (call.nameOf v) := by
  simp only [nameOf]
  cases v.name? with
  | some name => exact keeps_pure name
  | none => exact keeps_throw _

theorem keeps_namesOf (call : Call) (vs : List Value) :
    Keeps Does (call.namesOf vs) := by
  induction vs with
  | nil => exact keeps_pure []
  | cons v vs ih =>
      exact keeps_bind (call.keeps_nameOf v) fun name => keeps_bind ih fun names => keeps_pure _

theorem keeps_collapse (call : Call) (v : Value) :
    Keeps Does (call.collapse v) :=
  keeps_bind (call.keeps_nameOf v) fun name =>
    keeps_bind (keeps_act (keeps_addEntity name _)) fun _ => keeps_pure _

theorem keeps_collapseAll (call : Call) (vs : List Value) :
    Keeps Does (call.collapseAll vs) := by
  induction vs with
  | nil => exact keeps_pure []
  | cons v vs ih =>
      exact keeps_bind (call.keeps_collapse v) fun name => keeps_bind ih fun names => keeps_pure _

theorem keeps_collapseOperands (call : Call) :
    Keeps Does call.collapseOperands :=
  keeps_bind (call.keeps_requireOperands 1) fun _ =>
    keeps_bind (call.keeps_collapseAll call.args) fun _ => keeps_pure _

theorem keeps_chain (kind : String) (attrs : Attributes) (names : List String) :
    Keeps Does (chain kind attrs names) := by
  fun_induction chain kind attrs names with
  | case1 source target rest ih =>
      exact keeps_bind (keeps_addRelation source target kind attrs) fun id =>
        keeps_bind ih fun ids => keeps_pure _
  | case2 names hn => exact keeps_pure []

theorem keeps_connect (call : Call) : Keeps Does call.connect :=
  keeps_bind (call.keeps_requireOperands 2) fun _ =>
    keeps_bind (call.keeps_namesOf call.args) fun names =>
      keeps_bind (keeps_act (keeps_ensureRoom names)) fun _ =>
        keeps_bind (keeps_act (keeps_chain _ _ names)) fun _ => keeps_pure _

theorem keeps_gather (kind target : String) (names : List String) :
    Keeps Does (gather kind target names) :=
  keeps_forM names fun name _ => keeps_discard (keeps_addRelation name target kind {})

theorem keeps_synthesize (call : Call) : Keeps Does call.synthesize :=
  keeps_bind (call.keeps_requireOperands 2) fun _ =>
    keeps_bind (call.keeps_namesOf call.args) fun components =>
      keeps_bind (keeps_act (keeps_ensureRoom _)) fun _ =>
        keeps_bind (keeps_discard (keeps_act (keeps_addEntity _ _))) fun _ =>
          keeps_bind (keeps_act (keeps_gather _ _ components)) fun _ => keeps_pure _

theorem keeps_enrich (call : Call) : Keeps Does call.enrich := by
  refine keeps_bind (call.keeps_requireOperands 1) fun _ => ?_
  refine keeps_bind (call.keeps_namesOf call.args) fun names => ?_
  cases names with
  | nil => exact keeps_pure _
  | cons target sources =>
      exact keeps_bind (keeps_act (keeps_ensureRoom _)) fun _ =>
        keeps_bind (keeps_discard (keeps_act (Context.keeps_enrich target _))) fun _ =>
          keeps_bind (keeps_act (keeps_gather _ target sources)) fun _ => keeps_pure _

theorem keeps_giveBack (call : Call) : Keeps Does call.giveBack := by
  simp only [giveBack]
  cases (call.args.getLastD .nil).name? with
  | none => exact keeps_pure _
  | some name =>
      refine keeps_bind (keeps_modify fun c => ?_) fun _ => keeps_pure _
      cases h : c.setLifecycle? name statusReturned call.intentions with
      | none => exact .single (c.deed_recordTension _ _ _)
      | some c' => exact .single (c.deed_setLifecycle? h)

theorem keeps_converse (call : Call) : Keeps Does call.converse :=
  keeps_bind keeps_get fun _ =>
    keeps_bind (keeps_modify fun c => .single (c.deed_recordDialogue _ _ _)) fun _ => keeps_pure _

theorem keeps_perform (call : Call) (op : Operator) :
    Keeps Does (call.perform op) := by
  cases op with
  | alpha => exact call.keeps_collapseOperands
  | lambda => exact call.keeps_connect
  | sigma => exact call.keeps_synthesize
  | omega => exact call.keeps_giveBack
  | nabla => exact call.keeps_enrich
  | phi => exact call.keeps_converse

end Call

end GestureGraph
