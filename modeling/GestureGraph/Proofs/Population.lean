import GestureGraph.Proofs.Blame

namespace GestureGraph

namespace Context

theorem Alteration.nodeCount_le {c c' : Context} (h : Alteration c c')
    (hc : c.nodeCount ≤ c.axioms.limits.entities) :
    c'.nodeCount ≤ c'.axioms.limits.entities := by
  rw [h.frame.2.2]
  rcases h.nodes with hn | ⟨name, e, hn, room⟩ | ⟨name, f, hn⟩
  · simp only [nodeCount, hn]
    exact hc
  · simp only [nodeCount, hn, Table.size_insert]
    split
    · exact hc
    · exact room
  · simp only [nodeCount, hn, Table.size_modify]
    exact hc

theorem Reaches.nodeCount_le {c c' : Context} (h : c.Reaches c')
    (hc : c.nodeCount ≤ c.axioms.limits.entities) :
    c'.nodeCount ≤ c'.axioms.limits.entities := by
  induction h with
  | refl => exact hc
  | tail _ ha ih => exact ha.nodeCount_le ih

theorem nodeCount_le_of_create {name : String} {axioms : Axioms} {now : Nat} {c : Context}
    (h : create name axioms now = .ok c) : c.nodeCount ≤ c.axioms.limits.entities :=
  (reaches_of_create h).nodeCount_le (Nat.zero_le _)

end Context

theorem Action.BuiltIn.lawful {a : Action} (h : a.BuiltIn) : a.Lawful Tame := by
  cases a with
  | register g => exact fine_builtIn @tame_of_does h
  | recoverBy recovery =>
      intro f hf
      cases (h : recovery = .marker).symm.trans hf
  | _ => trivial

namespace Machine

theorem checkCeilings_ne_entityCount {m m' : Machine} {count max : Nat}
    (h : m.context.axioms.limits.checkEntities m.context.nodeCount = .ok ()) :
    checkCeilings m ≠ .error (.limit (.entityCount count max)) m' := by
  rw [checkCeilings_eq, h]
  intro hrun
  cases hd : m.context.axioms.limits.checkDepth m.depth with
  | ok _ =>
      rw [hd] at hrun
      cases hrun
  | error e =>
      rw [hd] at hrun
      rw [Limits.checkDepth] at hd
      split at hd
      · cases hd
        cases hrun
      · cases hd

theorem population_within_ceiling {name : String} {axioms : Axioms} {now : Nat} {c : Context}
    (h : Context.create name axioms now = .ok c) {actions : List Action}
    (ha : ∀ a ∈ actions, a.BuiltIn) :
    (perform actions { context := c }).context.nodeCount ≤ axioms.limits.entities ∧
    ∀ t ∈ moments actions { context := c },
      t.machine.context.nodeCount ≤ axioms.limits.entities ∧
      t.machine.context.axioms.limits.checkEntities t.machine.context.nodeCount = .ok () ∧
      ∀ count max, t.happening.limit? = some (.entityCount count max) →
        ∃ what : Move, what.Raises (.entityCount count max) (moments actions { context := c }) t ∧
          what.Asks (.entityCount count max) t.machine := by
  have hlawful : ∀ a ∈ actions, a.Lawful Tame := fun a hmem => (ha a hmem).lawful
  have hfresh : ({ context := c } : Machine).Confined Tame := confined_fresh @tame_of_does c
  have hplain : ({ context := c } : Machine).Plain := ⟨Registry.isBuiltIn_builtIn, rfl⟩
  have haxioms : ∀ c', c.Reaches c' → c'.axioms = axioms :=
    fun c' hc' => (Context.Reaches.frame ((Context.reaches_of_create h).trans hc')).2.2
  have hle : ∀ c', c.Reaches c' → c'.nodeCount ≤ axioms.limits.entities := by
    intro c' hc'
    have hn := hc'.nodeCount_le (Context.nodeCount_le_of_create h)
    rwa [haxioms c' hc'] at hn
  refine ⟨hle _ (onCourse_perform hlawful hfresh).reached, fun t ht => ?_⟩
  have hreached := (onCourse_moments hlawful hfresh ht).reached
  have hcheck : t.machine.context.axioms.limits.checkEntities t.machine.context.nodeCount =
      .ok () := by
    rw [Limits.checkEntities_eq_ok_iff, haxioms _ hreached]
    exact hle _ hreached
  refine ⟨hle _ hreached, hcheck, fun count max hlimit => ?_⟩
  exact (allAccounted_moments ha hplain t ht _ hlimit).resolve_right
    (checkCeilings_ne_entityCount hcheck)

def narrow : Axioms := ⟨{ recursionDepth := 2, entities := 7 }, [], {}, {}⟩

def crowding : List Action :=
  [.evaluate [] (.list [.str "Λ", .str "a", .list [.str "Σ", .str "b", .str "c"]]),
    .mutate (.enrich "a" {}), .mutate (.addEntity "b" {})]

theorem population_within_narrow_ceiling : ∃ c, Context.create "narrow" narrow 0 = .ok c ∧
    (∀ a ∈ crowding, a.BuiltIn) ∧
    (perform crowding { context := c }).context.nodeCount ≤ 7 ∧
    ∀ t ∈ moments crowding { context := c }, t.machine.context.nodeCount ≤ 7 := by
  obtain ⟨c, hc⟩ := Context.create_of_room "narrow" 0 (show 6 ≤ narrow.limits.entities by decide)
  have ha : ∀ a ∈ crowding, a.BuiltIn := by simp [crowding, Action.BuiltIn]
  obtain ⟨hend, hmoments⟩ := population_within_ceiling hc ha
  exact ⟨c, hc, ha, hend, fun t ht => (hmoments t ht).1⟩

end Machine

end GestureGraph
