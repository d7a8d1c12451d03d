import GestureGraph.Proofs.Creation
import Mathlib.Data.Finset.Card
import Mathlib.Data.Finset.Dedup

/-!
Room under the ceiling. The names that an act touches have room if all of them have entities
already, or if the entities there are and the touched names make up no more than the ceiling. Naming
a touched entity leaves that union as it is, so room that was found at first lasts to the end.
-/

namespace GestureGraph

namespace Table

open Std

variable {κ α : Type} [Ord κ] [LawfulEqOrd κ]

theorem contains_iff_mem_keys (t : Table κ α) (key : κ) : t.contains key = true ↔ key ∈ t.keys := by
  have hnone : t.get? key = none ↔ key ∉ t.keys := by
    rw [get?, lookupEntry_eq_none_iff]
    constructor
    · intro h hmem
      obtain ⟨e, he, rfl⟩ := List.mem_map.mp hmem
      exact h e he ReflCmp.compare_self
    · intro h e he heq
      have hkey : key = e.1 := LawfulEqCmp.eq_of_compare heq
      exact h (List.mem_map.mpr ⟨e, he, hkey.symm⟩)
  rw [contains, Option.isSome_iff_ne_none, ne_eq, hnone, not_not]

theorem nodup_keys (t : Table κ α) : t.keys.Nodup := by
  refine List.pairwise_map.mpr (t.ascending.imp ?_)
  intro a b hlt heq
  have hself : compare b.1 b.1 = .eq := ReflCmp.compare_self
  rw [heq, hself] at hlt
  cases hlt

end Table

namespace Context

def population (c : Context) : Finset String := c.graph.nodes.keys.toFinset

theorem mem_population {c : Context} {name : String} :
    name ∈ c.population ↔ c.contains name = true := by
  rw [population, List.mem_toFinset, ← Table.contains_iff_mem_keys]
  rfl

theorem entity?_eq (c : Context) (name : String) :
    c.entity? name = if name ∈ c.population then some (c.named name) else none := by
  have hiff : name ∈ c.population ↔ (c.entity? name).isSome := mem_population
  rw [named]
  cases he : c.entity? name with
  | none =>
      rw [he] at hiff
      rw [if_neg fun hmem => Bool.false_ne_true (hiff.mp hmem)]
  | some e =>
      rw [he] at hiff
      rw [if_pos (hiff.mpr rfl), Option.getD_some]

theorem card_population (c : Context) : c.population.card = c.nodeCount := by
  rw [population, List.toFinset_card_of_nodup (Table.nodup_keys _)]
  simp [Table.keys, nodeCount, Table.size]

def absent (c : Context) (touched : List String) : Finset String :=
  touched.toFinset \ c.population

theorem nodup_eraseDups (names : List String) : names.eraseDups.Nodup := by
  induction hn : names.length using Nat.strongRecOn generalizing names with
  | ind n ih =>
      cases names with
      | nil => simp
      | cons name rest =>
          have hle := List.length_filter_le (fun other => !other == name) rest
          rw [List.length_cons] at hn
          rw [List.eraseDups_cons, List.nodup_cons]
          exact ⟨by simp, ih _ (by omega) _ rfl⟩

theorem toFinset_missing (c : Context) (touched : List String) :
    (c.missing touched).toFinset = c.absent touched := by
  ext name
  simp [missing, absent, mem_population]

theorem length_missing (c : Context) (touched : List String) :
    (c.missing touched).length = (c.absent touched).card := by
  have hnodup : (c.missing touched).Nodup := nodup_eraseDups _
  rw [← toFinset_missing, List.toFinset_card_of_nodup hnodup]

def HasRoom (c : Context) (touched : List String) : Prop :=
  c.absent touched = ∅ ∨ c.nodeCount + (c.absent touched).card ≤ c.axioms.limits.entities

instance (c : Context) (touched : List String) : Decidable (c.HasRoom touched) :=
  inferInstanceAs (Decidable (_ ∨ _))

theorem ensureRoom_eq (touched : List String) (c : Context) :
    ensureRoom touched c =
      if c.HasRoom touched then .ok () c
      else .error (.entityCount (c.nodeCount + (c.absent touched).card) c.axioms.limits.entities)
        c := by
  have hlen := c.length_missing touched
  simp only [ensureRoom]
  split
  · rename_i hnil
    have hroom : c.HasRoom touched := by
      refine Or.inl (Finset.card_eq_zero.mp ?_)
      rw [← hlen, hnil, List.length_nil]
    rw [if_pos hroom]
  · rename_i hne
    have habsent : c.absent touched ≠ ∅ := by
      intro he
      rw [he, Finset.card_empty] at hlen
      exact hne (List.eq_nil_of_length_eq_zero hlen)
    have hiff : c.HasRoom touched ↔
        c.nodeCount + (c.absent touched).card ≤ c.axioms.limits.entities := or_iff_right habsent
    rw [hlen, Limits.checkEntities]
    by_cases h : c.axioms.limits.entities < c.nodeCount + (c.absent touched).card
    · rw [if_pos h, if_neg (fun hroom => absurd (hiff.mp hroom) (by omega))]
    · rw [if_neg h, if_pos (hiff.mpr (by omega))]

theorem ensureRoom_fails_iff {touched : List String} {c : Context} :
    (∃ e c', ensureRoom touched c = .error e c') ↔ ¬ c.HasRoom touched := by
  rw [ensureRoom_eq]
  split
  · rename_i hroom
    simp [hroom]
  · rename_i hroom
    simp [hroom]

theorem hasRoom_of_ensureRoom {touched : List String} {c t : Context}
    (h : ensureRoom touched c = .ok () t) : c.HasRoom touched := by
  by_contra hroom
  rw [ensureRoom_eq, if_neg hroom] at h
  cases h

theorem not_hasRoom_iff {touched : List String} {c : Context} :
    ¬ c.HasRoom touched ↔ (c.absent touched).Nonempty ∧
      c.axioms.limits.entities < c.nodeCount + (c.absent touched).card := by
  rw [HasRoom, not_or, Finset.nonempty_iff_ne_empty, Nat.not_le]

theorem card_population_union (c : Context) (touched : List String) :
    (c.population ∪ touched.toFinset).card = c.nodeCount + (c.absent touched).card := by
  rw [← Finset.union_sdiff_self_eq_union, Finset.card_union_of_disjoint Finset.disjoint_sdiff,
    card_population]
  rfl

theorem hasRoom_iff {c : Context} {touched : List String} :
    c.HasRoom touched ↔ touched.toFinset ⊆ c.population ∨
      (c.population ∪ touched.toFinset).card ≤ c.axioms.limits.entities := by
  rw [HasRoom, absent, Finset.sdiff_eq_empty_iff_subset, card_population_union]
  rfl

theorem hasRoom_of_length {c : Context} {touched : List String}
    (h : c.nodeCount + touched.length ≤ c.axioms.limits.entities) : c.HasRoom touched := by
  have habsent : (c.absent touched).card ≤ touched.length :=
    (Finset.card_le_card Finset.sdiff_subset).trans (List.toFinset_card_le touched)
  exact Or.inr (by omega)

theorem HasRoom.mono {c : Context} {touched fewer : List String} (h : c.HasRoom touched)
    (hsub : fewer ⊆ touched) : c.HasRoom fewer := by
  have hfin : fewer.toFinset ⊆ touched.toFinset := by
    intro name hname
    exact List.mem_toFinset.mpr (hsub (List.mem_toFinset.mp hname))
  rw [hasRoom_iff] at h ⊢
  rcases h with h | h
  · exact Or.inl (hfin.trans h)
  · exact Or.inr ((Finset.card_le_card (Finset.union_subset_union_right hfin)).trans h)

theorem population_of_create {name : String} {axioms : Axioms} {now : Nat} {c : Context}
    (h : create name axioms now = .ok c) :
    c.population = (Operator.all.map Operator.glyph).toFinset := by
  have hsub : (Operator.all.map Operator.glyph).toFinset ⊆ c.population := by
    intro glyph hglyph
    obtain ⟨op, _, rfl⟩ := List.mem_map.mp (List.mem_toFinset.mp hglyph)
    exact mem_population.mpr (contains_of_create h op)
  have hcard : (Operator.all.map Operator.glyph).toFinset.card = 6 := by decide
  refine (Finset.eq_of_subset_of_card_le hsub ?_).symm
  rw [hcard, card_population]
  exact nodeCount_of_create_le h

theorem population_withEntity (c : Context) (name : String) (attrs : Attributes) :
    (c.withEntity name attrs).population = insert name c.population := by
  obtain ⟨samples, coherence, h⟩ := c.withEntity_eq name attrs
  ext other
  rw [Finset.mem_insert, mem_population, mem_population, h]
  exact Table.contains_insert_iff _ _ _ _

theorem axioms_withEntity (c : Context) (name : String) (attrs : Attributes) :
    (c.withEntity name attrs).axioms = c.axioms := by
  obtain ⟨samples, coherence, h⟩ := c.withEntity_eq name attrs
  rw [h]

theorem population_withRelation (c : Context) (source target kind : String) (attrs : Attributes) :
    (c.withRelation source target kind attrs).population = c.population := by
  obtain ⟨samples, coherence, h⟩ := c.withRelation_eq source target kind attrs
  rw [h]
  rfl

theorem population_withAttributes (c : Context) (name : String) (attrs : Attributes) :
    (c.withAttributes name attrs).population = c.population := by
  obtain ⟨samples, coherence, h⟩ := c.withAttributes_eq name attrs
  ext other
  rw [mem_population, mem_population, h]
  exact iff_of_eq (congrArg (· = true) (Table.contains_modify _ _ _ _))

theorem HasRoom.of_same {c c' : Context} {touched : List String} (h : c.HasRoom touched)
    (hp : c'.population = c.population) (ha : c'.axioms = c.axioms) : c'.HasRoom touched := by
  rw [hasRoom_iff] at h ⊢
  rwa [hp, ha]

theorem HasRoom.withEntity {c : Context} {touched : List String} (h : c.HasRoom touched)
    {name : String} (hname : name ∈ touched) (attrs : Attributes) :
    (c.withEntity name attrs).HasRoom touched := by
  have hmem : name ∈ touched.toFinset := List.mem_toFinset.mpr hname
  rw [hasRoom_iff] at h ⊢
  rw [population_withEntity, axioms_withEntity]
  rcases h with h | h
  · exact Or.inl (h.trans (Finset.subset_insert _ _))
  · refine Or.inr ?_
    have hunion : insert name c.population ∪ touched.toFinset =
        c.population ∪ touched.toFinset := by
      rw [Finset.insert_union, Finset.insert_eq_of_mem (Finset.mem_union_right _ hmem)]
    rwa [hunion]

theorem HasRoom.one_more {c : Context} {touched : List String} (h : c.HasRoom touched)
    {name : String} (hname : name ∈ touched) (hc : c.contains name = false) :
    c.nodeCount + 1 ≤ c.axioms.limits.entities := by
  have habsent : name ∈ c.absent touched := by
    rw [absent, Finset.mem_sdiff, mem_population, hc, List.mem_toFinset]
    exact ⟨hname, Bool.false_ne_true⟩
  have hpos : 0 < (c.absent touched).card := Finset.card_pos.mpr ⟨name, habsent⟩
  rcases h with h | h
  · rw [h] at habsent
    exact absurd habsent (Finset.notMem_empty _)
  · omega

theorem HasRoom.withRelation {c : Context} {touched : List String} (h : c.HasRoom touched)
    (source target kind : String) (attrs : Attributes) :
    (c.withRelation source target kind attrs).HasRoom touched := by
  refine h.of_same (c.population_withRelation source target kind attrs) ?_
  obtain ⟨samples, coherence, he⟩ := c.withRelation_eq source target kind attrs
  rw [he]

theorem addMissing_of_room {c : Context} {touched : List String} {name : String}
    (h : c.HasRoom touched) (hname : name ∈ touched) :
    ∃ c', addMissing name c = .ok () c' ∧ c'.HasRoom touched ∧ c'.graph.edges = c.graph.edges := by
  rw [addMissing_eq]
  cases hn : c.contains name with
  | true => exact ⟨c, rfl, h, rfl⟩
  | false =>
      have hadd := addEntity_of_room (h.one_more hname hn) name {}
      obtain ⟨samples, coherence, he⟩ := c.withEntity_eq name {}
      exact ⟨c.withEntity name {}, bind_of_ok hadd _, h.withEntity hname {}, by rw [he]⟩

theorem addRelation_of_room {c : Context} {touched : List String} {source target : String}
    (h : c.HasRoom touched) (hs : source ∈ touched) (ht : target ∈ touched) (kind : String)
    (attrs : Attributes) : ∃ c' : Context, addRelation source target kind attrs c =
      .ok (Relation.idOf source target kind) (c'.withRelation source target kind attrs) ∧
        c'.HasRoom touched ∧ c'.graph.edges = c.graph.edges := by
  have hroom : ensureRoom [source, target] c = .ok () c := by
    rw [ensureRoom_eq, if_pos (h.mono (by simp [hs, ht]))]
  obtain ⟨c₁, hsource, h₁, he₁⟩ := addMissing_of_room h hs
  obtain ⟨c₂, htarget, h₂, he₂⟩ := addMissing_of_room h₁ ht
  refine ⟨c₂, ?_, h₂, he₂.trans he₁⟩
  rw [addRelation, bind_of_ok hroom, bind_of_ok hsource, bind_of_ok htarget]
  rfl

/-- From a context with room for the touched names a change comes to an end in one that still has
it. -/
def Settles {ε α : Type} (touched : List String) (x : EStateM ε Context α) : Prop :=
  ∀ c : Context, c.HasRoom touched → ∃ a c', x c = .ok a c' ∧ c'.HasRoom touched

section settling

variable {ε α β : Type} {touched : List String}

theorem settles_pure (a : α) : Settles touched (pure a : EStateM ε Context α) :=
  fun c h => ⟨a, c, rfl, h⟩

theorem settles_modify {f : Context → Context}
    (h : ∀ c, c.HasRoom touched → (f c).HasRoom touched) :
    Settles touched (modify f : EStateM ε Context PUnit) :=
  fun c hc => ⟨⟨⟩, f c, rfl, h c hc⟩

theorem settles_bind {x : EStateM ε Context α} {f : α → EStateM ε Context β}
    (hx : Settles touched x) (hf : ∀ a, Settles touched (f a)) : Settles touched (x >>= f) := by
  intro c hc
  obtain ⟨a, c₁, h₁, hc₁⟩ := hx c hc
  obtain ⟨b, c₂, h₂, hc₂⟩ := hf a c₁ hc₁
  exact ⟨b, c₂, (bind_of_ok h₁ f).trans h₂, hc₂⟩

theorem settles_discard {x : EStateM ε Context α} (h : Settles touched x) :
    Settles touched (discard x) := settles_bind h fun _ => settles_pure _

theorem settles_forM {γ : Type} {f : γ → EStateM ε Context PUnit} (l : List γ)
    (h : ∀ a ∈ l, Settles touched (f a)) : Settles touched (l.forM f) := by
  induction l with
  | nil => exact settles_pure _
  | cons a rest ih =>
      exact settles_bind (h a List.mem_cons_self) fun _ =>
        ih fun b hb => h b (List.mem_cons_of_mem a hb)

theorem settles_addMissing {name : String} (hname : name ∈ touched) :
    Settles touched (addMissing name) := by
  intro c hc
  obtain ⟨c', h, hc', _⟩ := addMissing_of_room hc hname
  exact ⟨(), c', h, hc'⟩

theorem settles_addRelation {source target : String} (hs : source ∈ touched)
    (ht : target ∈ touched) (kind : String) (attrs : Attributes) :
    Settles touched (addRelation source target kind attrs) := by
  intro c hc
  obtain ⟨c', h, hc', _⟩ := addRelation_of_room hc hs ht kind attrs
  exact ⟨_, _, h, hc'.withRelation source target kind attrs⟩

theorem settles_enrich {name : String} (hname : name ∈ touched) (attrs : Attributes) :
    Settles touched (enrich name attrs) := by
  refine settles_bind (settles_addMissing hname) fun _ => ?_
  refine settles_bind (settles_modify fun c hc => ?_) fun _ => settles_pure _
  refine hc.of_same (c.population_withAttributes name attrs) ?_
  obtain ⟨samples, coherence, h⟩ := c.withAttributes_eq name attrs
  rw [h]

theorem settles_act {x : Change α} (h : Settles touched x) : Settles touched x.act := by
  intro c hc
  obtain ⟨a, c', hx, hc'⟩ := h c hc
  exact ⟨a, c', by simp only [Change.act, hx], hc'⟩

theorem settles_chain (kind : String) (attrs : Attributes) {names : List String}
    (hsub : names ⊆ touched) : Settles touched (Call.chain kind attrs names) := by
  fun_induction Call.chain kind attrs names with
  | case1 source target rest ih =>
      obtain ⟨hs, hrest⟩ := List.cons_subset.mp hsub
      have ht : target ∈ touched := hrest List.mem_cons_self
      exact settles_bind (settles_addRelation hs ht kind attrs) fun _ =>
        settles_bind (ih hrest) fun _ => settles_pure _
  | case2 => exact settles_pure []

theorem settles_gather (kind : String) {target : String} {names : List String}
    (ht : target ∈ touched) (hsub : names ⊆ touched) :
    Settles touched (Call.gather kind target names) :=
  settles_forM names fun _ hname =>
    settles_discard (settles_addRelation (hsub hname) ht kind {})

end settling

end Context

end GestureGraph
