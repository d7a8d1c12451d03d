import GestureGraph.Proofs.Room

namespace GestureGraph

open Context

structure Arrival where
  name : String
  attrs : Attributes := {}
  second : Nat

namespace Arrival

def receive (a : Arrival) : Change Unit := do
  modify ({ · with now := a.second })
  if !(← get).contains a.name then
    discard (addEntity a.name a.attrs)

def receiveAll (arrivals : List Arrival) : Change Unit := arrivals.forM receive

theorem receive_eq (a : Arrival) (c : Context) :
    a.receive c = if c.contains a.name then .ok () { c with now := a.second }
      else discard (addEntity a.name a.attrs) { c with now := a.second } :=
  run_if_missing a.name _ _

end Arrival

namespace Context

variable {c : Context} {name : String} {names : List String}

theorem hasRoom_cons_of_contains (h : c.contains name = true) :
    c.HasRoom (name :: names) ↔ c.HasRoom names := by
  have hmem : name ∈ c.population := mem_population.mpr h
  have habsent : c.absent (name :: names) = c.absent names := by
    rw [absent, absent, List.toFinset_cons, Finset.insert_sdiff_of_mem _ hmem]
  rw [HasRoom, HasRoom, habsent]

theorem hasRoom_cons_of_not_contains (h : c.contains name = false) (attrs : Attributes) :
    c.HasRoom (name :: names) ↔
      c.nodeCount + 1 ≤ c.axioms.limits.entities ∧ (c.withEntity name attrs).HasRoom names := by
  constructor
  · intro hroom
    have hlater := hroom.withEntity List.mem_cons_self attrs
    exact ⟨hroom.one_more List.mem_cons_self h, hlater.mono (List.subset_cons_self name names)⟩
  · rintro ⟨hone, hroom⟩
    -- The name goes over from those that are touched to those that are there.
    have hunion : c.population ∪ (name :: names).toFinset =
        insert name c.population ∪ names.toFinset := by
      rw [List.toFinset_cons, Finset.union_insert, Finset.insert_union]
    rw [hasRoom_iff, population_withEntity, axioms_withEntity] at hroom
    rw [hasRoom_iff, hunion]
    refine Or.inr ?_
    rcases hroom with hsub | hcard
    · have hinsert := Finset.card_insert_le name c.population
      rw [card_population] at hinsert
      rw [Finset.union_eq_left.mpr hsub]
      omega
    · exact hcard

end Context

namespace Arrival

theorem hasRoom_cons_iff (a : Arrival) (names : List String) (c : Context) :
    c.HasRoom (a.name :: names) ↔ ∃ t, a.receive c = .ok () t ∧ t.HasRoom names := by
  have hclock {touched : List String} :
      ({ c with now := a.second } : Context).HasRoom touched ↔ c.HasRoom touched := Iff.rfl
  rw [receive_eq]
  cases hname : c.contains a.name with
  | true =>
      rw [hasRoom_cons_of_contains hname, if_pos rfl]
      constructor
      · intro h
        exact ⟨_, rfl, hclock.mpr h⟩
      · rintro ⟨t, ht, h⟩
        cases ht
        exact hclock.mp h
  | false =>
      have hname' : ({ c with now := a.second } : Context).contains a.name = false := hname
      rw [← hclock, hasRoom_cons_of_not_contains hname' a.attrs, if_neg Bool.false_ne_true]
      constructor
      · rintro ⟨hone, h⟩
        exact ⟨_, bind_of_ok (addEntity_of_room hone a.name a.attrs) _, h⟩
      · rintro ⟨t, ht, h⟩
        obtain ⟨_, hadd⟩ := ok_of_discard ht
        rcases addEntity_cases a.name a.attrs { c with now := a.second } with ⟨he, hone⟩ | ⟨e, he⟩
        · rw [he] at hadd
          cases hadd
          exact ⟨hone, h⟩
        · rw [he] at hadd
          cases hadd

theorem hasRoom_iff_receiveAll (arrivals : List Arrival) (c : Context) :
    c.HasRoom (arrivals.map name) ↔ ∃ t, receiveAll arrivals c = .ok () t := by
  induction arrivals generalizing c with
  | nil => exact ⟨fun _ => ⟨c, rfl⟩, fun _ => Or.inl (Finset.empty_sdiff _)⟩
  | cons a rest ih =>
      rw [List.map_cons, hasRoom_cons_iff]
      constructor
      · rintro ⟨u, hreceive, hroom⟩
        obtain ⟨t, ht⟩ := (ih u).mp hroom
        exact ⟨t, (bind_of_ok hreceive _).trans ht⟩
      · rintro ⟨t, ht⟩
        obtain ⟨_, u, hreceive, hrest⟩ := ok_of_bind (f := fun _ => receiveAll rest) ht
        exact ⟨u, hreceive, (ih u).mpr ⟨t, hrest⟩⟩

theorem room_predicts_admission (c : Context) (arrivals : List Arrival) :
    ((∃ t, ensureRoom (arrivals.map name) c = .ok () t) ↔ ∃ t, receiveAll arrivals c = .ok () t) ∧
    ∀ e t, ensureRoom (arrivals.map name) c = .error e t →
      t = c ∧
      e = .entityCount (c.nodeCount + (c.absent (arrivals.map name)).card)
        c.axioms.limits.entities ∧
      c.axioms.limits.entities < c.nodeCount + (c.absent (arrivals.map name)).card := by
  rw [← hasRoom_iff_receiveAll, ensureRoom_eq]
  by_cases hroom : c.HasRoom (arrivals.map name)
  · rw [if_pos hroom]
    refine ⟨⟨fun _ => hroom, fun _ => ⟨c, rfl⟩⟩, ?_⟩
    intro e t h
    cases h
  · rw [if_neg hroom]
    refine ⟨⟨fun ⟨_, h⟩ => (nomatch h), fun h => absurd h hroom⟩, ?_⟩
    intro e t h
    cases h
    exact ⟨rfl, rfl, (not_hasRoom_iff.mp hroom).2⟩

def inn : Axioms := ⟨{ entities := 8 }, [], {}, {}⟩

def guests (names : List String) : List Arrival := names.map fun name => { name, second := 1 }

theorem inn_predicts_admission : ∃ c, create "inn" inn 0 = .ok c ∧
    (∃ t, receiveAll (guests ["x", "y", "x", "Α"]) c = .ok () t) ∧
    ensureRoom ["x", "y", "z"] c = .error (.entityCount 9 8) c ∧
    ¬ ∃ t, receiveAll (guests ["x", "y", "z"]) c = .ok () t := by
  obtain ⟨c, hc⟩ := create_of_room "inn" 0 (show 6 ≤ inn.limits.entities by decide)
  have hlimit : c.axioms.limits.entities = 8 := by
    rw [(reaches_of_create hc).frame.2.2]
    rfl
  have hroom : c.HasRoom ["x", "y", "x", "Α"] := by
    rw [hasRoom_iff, hlimit, population_of_create hc]
    exact Or.inr (by decide)
  have hfull : ¬ c.HasRoom ["x", "y", "z"] := by
    rw [hasRoom_iff, hlimit, population_of_create hc]
    decide
  have hensure : ensureRoom ["x", "y", "x", "Α"] c = .ok () c := by
    rw [ensureRoom_eq, if_pos hroom]
  have hcount : c.nodeCount + (c.absent ["x", "y", "z"]).card = 9 := by
    rw [← card_population_union, population_of_create hc]
    decide
  obtain ⟨hreceived, _⟩ := room_predicts_admission c (guests ["x", "y", "x", "Α"])
  obtain ⟨hrefused, herror⟩ := room_predicts_admission c (guests ["x", "y", "z"])
  obtain ⟨e, t, he⟩ := ensureRoom_fails_iff.mpr hfull
  obtain ⟨htc, hreported, _⟩ := herror e t he
  have hguests : (guests ["x", "y", "z"]).map name = ["x", "y", "z"] := rfl
  rw [hguests, hcount, hlimit] at hreported
  refine ⟨c, hc, hreceived.mp ⟨c, hensure⟩, ?_, ?_⟩
  · rw [he, htc, hreported]
  · intro h
    obtain ⟨u, hu⟩ := hrefused.mpr h
    cases he.symm.trans hu

end Arrival

end GestureGraph
