import GestureGraph.Proofs.Room
import Mathlib.Logic.Function.Basic

namespace GestureGraph

structure Tie where
  source : String
  target : String
  kind : String
  attrs : Attributes := {}

namespace Tie

def ends (tie : Tie) : Ends := ⟨tie.source, tie.target⟩

def names (tie : Tie) : List String := [tie.source, tie.target]

def id (tie : Tie) : String := Relation.idOf tie.source tie.target tie.kind

def relation (tie : Tie) (context : String) : Relation :=
  ⟨tie.id, tie.source, tie.target, tie.kind, tie.attrs.intentions, context,
    tie.attrs.withoutIntentions⟩

def overwrite (context : String) (edges : Table Ends Relation) (ties : List Tie) :
    Table Ends Relation :=
  ties.foldl (fun edges tie => edges.insert tie.ends (tie.relation context)) edges

theorem overwrite_append (context : String) (edges : Table Ends Relation) (ties ties' : List Tie) :
    overwrite context edges (ties ++ ties') =
      overwrite context (overwrite context edges ties) ties' := List.foldl_append

def namesOf (ties : List Tie) : Finset String := (ties.flatMap names).toFinset

theorem namesOf_cons (tie : Tie) (ties : List Tie) :
    namesOf (tie :: ties) = tie.names.toFinset ∪ namesOf ties := by
  rw [namesOf, List.flatMap_cons, List.toFinset_append]
  rfl

end Tie

namespace Context

/-- What a change makes of a context, where each name has the entity that is there afterwards, or
that it would get. All but the graph, the events, the samples and the grants stays as it was. -/
structure Effect (c t : Context) (touched : Finset String) (entityOf : String → Entity)
    (ties : List Tie) (count : Nat) : Prop where
  population : t.population = c.population ∪ touched
  named : t.named = entityOf
  edges : t.graph.edges = Tie.overwrite c.name c.graph.edges ties
  events : ∃ news, t.events = c.events ++ news ∧ news.length = count
  rest : t = { c with
    graph := t.graph, events := t.events, samples := t.samples, grants := t.grants }

section effects

variable {c t u : Context} {touched touched' : Finset String} {entityOf entityOf' : String → Entity}
  {ties ties' : List Tie} {count count' : Nat}

theorem Effect.entity? (h : Effect c t touched entityOf ties count) (name : String) :
    t.entity? name = if name ∈ c.population ∪ touched then some (entityOf name) else none := by
  rw [entity?_eq, h.population, h.named]

theorem Effect.trans (h : Effect c t touched entityOf ties count)
    (h' : Effect t u touched' entityOf' ties' count') :
    Effect c u (touched ∪ touched') entityOf' (ties ++ ties') (count + count') where
  population := by rw [h'.population, h.population, Finset.union_assoc]
  named := h'.named
  edges := by
    have hname : t.name = c.name := by rw [h.rest]
    rw [h'.edges, h.edges, hname, Tie.overwrite_append]
  events := by
    obtain ⟨news, hnews, hlength⟩ := h.events
    obtain ⟨news', hnews', hlength'⟩ := h'.events
    refine ⟨news ++ news', ?_, ?_⟩
    · rw [hnews', hnews, List.append_assoc]
    · rw [List.length_append, hlength, hlength']
  rest := by rw [h'.rest, h.rest]

def Grown (c t : Context) (touched : Finset String) (ties : List Tie) : Prop :=
  Effect c t touched c.named ties ((touched \ c.population).card + ties.length)

theorem card_sdiff_union (there touched more : Finset String) :
    (touched \ there).card + (more \ (there ∪ touched)).card =
      ((touched ∪ more) \ there).card := by
  have hdisjoint : Disjoint (touched \ there) (more \ (there ∪ touched)) :=
    Finset.disjoint_left.mpr fun name hname hname' =>
      (Finset.mem_sdiff.mp hname').2 (Finset.mem_union_right _ (Finset.mem_sdiff.mp hname).1)
  rw [← Finset.card_union_of_disjoint hdisjoint]
  congr 1
  ext name
  simp only [Finset.mem_union, Finset.mem_sdiff]
  tauto

theorem Grown.refl (c : Context) : c.Grown c ∅ [] where
  population := (Finset.union_empty _).symm
  named := rfl
  edges := rfl
  events := ⟨[], by simp⟩
  rest := rfl

theorem Grown.trans (h : c.Grown t touched ties) (h' : t.Grown u touched' ties') :
    c.Grown u (touched ∪ touched') (ties ++ ties') := by
  have hcard := card_sdiff_union c.population touched touched'
  rw [← h.population] at hcard
  have hlength : (ties ++ ties').length = ties.length + ties'.length := List.length_append
  have heffect := Effect.trans h h'
  rw [h.named] at heffect
  rw [Grown, ← hcard, hlength]
  convert heffect using 1
  omega

theorem effect_withEntity (c : Context) (name : String) (attrs : Attributes) :
    Effect c (c.withEntity name attrs) {name}
      (Function.update c.named name ((c.named name).merge attrs.withoutIntentions)) [] 1 := by
  have hpopulation := c.population_withEntity name attrs
  obtain ⟨samples, coherence, h⟩ := c.withEntity_eq name attrs
  rw [h] at hpopulation ⊢
  refine ⟨?_, ?_, rfl, ⟨_, rfl, rfl⟩, rfl⟩
  · rw [hpopulation, Finset.insert_eq, Finset.union_comm]
  · funext other
    simp only [named, entity?, Table.get?_insert_eq, Function.update_apply]
    split <;> rfl

theorem grown_withRelation (c : Context) (source target kind : String) (attrs : Attributes) :
    c.Grown (c.withRelation source target kind attrs) ∅ [⟨source, target, kind, attrs⟩] := by
  obtain ⟨samples, coherence, h⟩ := c.withRelation_eq source target kind attrs
  rw [h]
  exact ⟨(Finset.union_empty _).symm, rfl, rfl, ⟨_, rfl, by simp⟩, rfl⟩

theorem effect_withAttributes {name : String} (hc : c.contains name = true) (attrs : Attributes) :
    Effect c (c.withAttributes name attrs) ∅
      (Function.update c.named name ((c.named name).merge attrs.withoutIntentions)) [] 1 := by
  have hpopulation := c.population_withAttributes name attrs
  obtain ⟨e, he⟩ := Option.isSome_iff_exists.mp hc
  obtain ⟨samples, coherence, h⟩ := c.withAttributes_eq name attrs
  rw [h] at hpopulation ⊢
  refine ⟨?_, ?_, rfl, ⟨_, rfl, rfl⟩, rfl⟩
  · rw [hpopulation, Finset.union_empty]
  · funext other
    simp only [named, entity?, Table.get?_modify, Function.update_apply, he]
    split <;> rfl

theorem card_newcomer (c : Context) (name : String) :
    ({name} \ c.population).card = if c.contains name then 0 else 1 := by
  cases hn : c.contains name with
  | true => simp [Finset.sdiff_eq_empty_iff_subset, mem_population, hn]
  | false => simp [Finset.sdiff_eq_self_of_disjoint, mem_population, hn]

theorem grown_of_addMissing {name : String} (h : addMissing name c = .ok () t) :
    c.Grown t {name} [] := by
  rw [addMissing_eq] at h
  rw [Grown, card_newcomer]
  cases hn : c.contains name with
  | true =>
      rw [hn] at h
      cases h
      have hmem : {name} ⊆ c.population := Finset.singleton_subset_iff.mpr (mem_population.mpr hn)
      exact ⟨(Finset.union_eq_left.mpr hmem).symm, rfl, rfl, ⟨[], by simp⟩, rfl⟩
  | false =>
      rw [hn] at h
      obtain ⟨a, hadd⟩ := ok_of_discard h
      obtain rfl := ok_of_addEntity hadd
      have heffect := c.effect_withEntity name {}
      have hbare : (c.named name).merge (Attributes.withoutIntentions {}) = c.named name := rfl
      rwa [hbare, Function.update_eq_self] at heffect

theorem ok_of_ensureRoom {names : List String} (h : ensureRoom names c = .ok () t) : t = c := by
  rcases ensureRoom_cases names c with hroom | ⟨e, hroom⟩
  · rw [hroom] at h
    cases h
    rfl
  · rw [hroom] at h
    cases h

theorem grown_of_addRelation {source target kind id : String} {attrs : Attributes}
    (h : addRelation source target kind attrs c = .ok id t) :
    c.Grown t {source, target} [⟨source, target, kind, attrs⟩] := by
  obtain ⟨_, c₀, hroom, hadd⟩ := ok_of_bind h
  obtain ⟨_, c₁, hsource, hadd⟩ := ok_of_bind hadd
  obtain ⟨_, c₂, htarget, hadd⟩ := ok_of_bind hadd
  cases hadd
  obtain rfl := ok_of_ensureRoom hroom
  have hnames := (grown_of_addMissing hsource).trans (grown_of_addMissing htarget)
  have hall := hnames.trans (c₂.grown_withRelation source target kind attrs)
  rwa [Finset.union_empty, ← Finset.insert_eq] at hall

end effects

end Context

end GestureGraph
