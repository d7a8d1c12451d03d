import GestureGraph.Proofs.Essence
import GestureGraph.Proofs.Ties
import Mathlib.Data.List.Nodup

namespace GestureGraph

namespace Context

variable {c t : Context} {touched : Finset String} {ties : List Tie}

theorem entity?_essence (c : Context) (name : String) :
    c.essence.entity? name = (c.entity? name).map Entity.untimed := Table.get?_map _ _ _

theorem named_essence (c : Context) (name : String) :
    c.essence.named name = (c.named name).untimed := by
  rw [named, named, entity?_essence]
  cases c.entity? name with
  | none => rfl
  | some e => rfl

theorem population_essence (c : Context) : c.essence.population = c.population := by
  ext name
  rw [mem_population, mem_population, contains_essence]

theorem Grown.essence (h : c.Grown t touched ties) : c.essence.Grown t.essence touched ties where
  population := by rw [population_essence, population_essence, h.population]
  named := by
    funext name
    rw [named_essence, named_essence, h.named]
  edges := h.edges
  events := by
    rw [population_essence]
    exact h.events
  rest := congrArg Context.essence h.rest

end Context

open Context

namespace Tie

def make (tie : Tie) (second : Nat) : Change String := do
  modify ({ · with now := second })
  addRelation tie.source tie.target tie.kind tie.attrs

def makeAll (calls : List (Tie × Nat)) : Change (List String) :=
  calls.mapM fun (tie, second) => tie.make second

variable {c : Context} {touched : List String}

theorem make_of_room {tie : Tie} (hroom : c.HasRoom touched) (hnames : tie.names ⊆ touched)
    (second : Nat) :
    ∃ t, tie.make second c = .ok tie.id t ∧ t.HasRoom touched ∧
      c.essence.Grown t.essence tie.names.toFinset [tie] := by
  have hsame : ({ c with now := second } : Context).HasRoom touched := hroom.of_same rfl rfl
  have hs : tie.source ∈ touched := hnames (by simp [names])
  have ht : tie.target ∈ touched := hnames (by simp [names])
  obtain ⟨c₁, hadd, hroom₁, _⟩ := addRelation_of_room hsame hs ht tie.kind tie.attrs
  refine ⟨_, hadd, hroom₁.withRelation _ _ _ _, ?_⟩
  have htouched : tie.names.toFinset = {tie.source, tie.target} := by simp [names]
  rw [htouched]
  -- The clock is no part of the essence.
  exact (grown_of_addRelation hadd).essence

theorem makeAll_of_room {calls : List (Tie × Nat)} (hroom : c.HasRoom touched)
    (hnames : ∀ call ∈ calls, call.1.names ⊆ touched) :
    ∃ t, makeAll calls c = .ok (calls.map (·.1.id)) t ∧
      c.essence.Grown t.essence (namesOf (calls.map Prod.fst)) (calls.map Prod.fst) := by
  induction calls generalizing c with
  | nil => exact ⟨c, rfl, Grown.refl _⟩
  | cons call rest ih =>
      obtain ⟨tie, second⟩ := call
      obtain ⟨c₁, hmake, hroom₁, hgrown₁⟩ := make_of_room hroom (hnames _ List.mem_cons_self) second
      obtain ⟨t, hrest, hgrown⟩ := ih hroom₁ fun call hcall =>
        hnames call (List.mem_cons_of_mem _ hcall)
      refine ⟨t, ?_, ?_⟩
      · rw [makeAll] at hrest ⊢
        rw [List.mapM_cons, bind_of_ok hmake, bind_of_ok hrest]
        rfl
      · rw [List.map_cons, namesOf_cons]
        exact hgrown₁.trans hgrown

theorem overwrite_perm {ties ties' : List Tie} (hends : (ties.map ends).Nodup)
    (hperm : ties'.Perm ties) (context : String) (edges : Table Ends Relation) :
    overwrite context edges ties' = overwrite context edges ties := by
  refine (hperm.symm.foldl_eq' ?_ edges).symm
  intro tie htie tie' htie' edges
  by_cases h : tie.ends = tie'.ends
  · rw [List.inj_on_of_nodup_map hends htie htie' h]
  · exact Table.insert_comm edges h _ _

theorem namesOf_perm {ties ties' : List Tie} (hperm : ties'.Perm ties) :
    namesOf ties' = namesOf ties := List.toFinset_eq_of_perm _ _ (hperm.flatMap_right _)

theorem relations_commute {calls : List (Tie × Nat)}
    (hends : (calls.map (·.1.ends)).Nodup)
    (hroom : ensureRoom (calls.flatMap (·.1.names)) c = .ok () c) :
    ∃ t, makeAll calls c = .ok (calls.map (·.1.id)) t ∧
      ∀ calls' : List (Tie × Nat), (calls'.map Prod.fst).Perm (calls.map Prod.fst) →
        ∃ t', makeAll calls' c = .ok (calls'.map (·.1.id)) t' ∧
          t'.population = t.population ∧
          (∀ name,
            (t'.entity? name).map Entity.untimed = (t.entity? name).map Entity.untimed) ∧
          t'.graph.edges = t.graph.edges := by
  have hall : ∀ calls' : List (Tie × Nat), (calls'.map Prod.fst).Perm (calls.map Prod.fst) →
      ∀ call ∈ calls', call.1.names ⊆ calls.flatMap (·.1.names) := by
    intro calls' hperm call hcall name hname
    obtain ⟨call', hcall', heq⟩ :=
      List.mem_map.mp (hperm.subset (List.mem_map_of_mem (f := Prod.fst) hcall))
    exact List.mem_flatMap.mpr ⟨call', hcall', heq ▸ hname⟩
  have hroom := hasRoom_of_ensureRoom hroom
  obtain ⟨t, hmade, hgrown⟩ := makeAll_of_room hroom (hall calls (.refl _))
  refine ⟨t, hmade, fun calls' hperm => ?_⟩
  obtain ⟨t', hmade', hgrown'⟩ := makeAll_of_room hroom (hall calls' hperm)
  rw [namesOf_perm hperm] at hgrown'
  refine ⟨t', hmade', ?_, ?_, ?_⟩
  · rw [← population_essence, ← population_essence t, hgrown'.population, hgrown.population]
  · intro name
    rw [← entity?_essence, ← entity?_essence, hgrown'.entity?, hgrown.entity?]
  · have hends' : ((calls.map Prod.fst).map ends).Nodup := by rwa [List.map_map]
    exact hgrown'.edges.trans ((overwrite_perm hends' hperm _ _).trans hgrown.edges.symm)

def knot : List (Tie × Nat) :=
  [({ source := "a", target := "b", kind := "Λ" }, 1),
    ({ source := "b", target := "a", kind := "Λ", attrs := .ofList [("weight", .int 2)] }, 2),
    ({ source := "a", target := "a", kind := "Σ" }, 5),
    ({ source := "b", target := "Α", kind := "∇" }, 8)]

def snug : Axioms := ⟨{ entities := 8 }, [], {}, {}⟩

theorem knot_commutes : ∃ c, create "knot" snug 0 = .ok c ∧
    (knot.map (·.1.ends)).Nodup ∧ ensureRoom (knot.flatMap (·.1.names)) c = .ok () c ∧
    ∃ t t', makeAll knot c = .ok (knot.map (·.1.id)) t ∧
      makeAll knot.reverse c = .ok (knot.reverse.map (·.1.id)) t' ∧
      t'.population = t.population ∧ t'.graph.edges = t.graph.edges := by
  obtain ⟨c, hc⟩ := create_of_room "knot" 0 (show 6 ≤ snug.limits.entities by decide)
  have hlimit : c.axioms.limits.entities = 8 := by rw [(reaches_of_create hc).frame.2.2]; rfl
  have hends : (knot.map (·.1.ends)).Nodup := by decide
  have hroom : c.HasRoom (knot.flatMap (·.1.names)) := by
    rw [hasRoom_iff, hlimit, population_of_create hc]
    exact Or.inr (by decide)
  have hensure : ensureRoom (knot.flatMap (·.1.names)) c = .ok () c := by
    rw [ensureRoom_eq, if_pos hroom]
  obtain ⟨t, hmade, hcommute⟩ := relations_commute hends hensure
  obtain ⟨t', hmade', hpopulation, _, hedges⟩ :=
    hcommute knot.reverse ((List.reverse_perm knot).map _)
  exact ⟨c, hc, hends, hensure, t, t', hmade, hmade', hpopulation, hedges⟩

end Tie

end GestureGraph
