import GestureGraph.Proofs.Decision
import GestureGraph.Proofs.Run

namespace GestureGraph

open Context

def Atomic {ε α : Type} (x : EStateM ε Context α) : Prop :=
  ∀ c e c', x c = .error e c' → c' = c

/-- Cut anywhere in two parts, the second part succeeds wherever the first one has left an event. -/
def Committed {α : Type} (x : Act α) : Prop :=
  ∀ {β : Type} (first : Act β) (rest : β → Act α), x = first >>= rest →
    Tame first → (∀ b, Tame (rest b)) →
      ∀ c b c₁, first c = .ok b c₁ → c₁.events ≠ c.events → ∃ a c₂, rest b c₁ = .ok a c₂

namespace Context

theorem atomic_addEntity (name : String) (attrs : Attributes) : Atomic (addEntity name attrs) := by
  intro c e c' h
  rcases addEntity_cases name attrs c with ⟨hok, _⟩ | ⟨e', herr⟩
  · rw [hok] at h
    cases h
  · rw [herr] at h
    cases h
    rfl

theorem atomic_addRelation (source target kind : String) (attrs : Attributes) :
    Atomic (addRelation source target kind attrs) := by
  intro c e c' h
  rcases ensureRoom_cases [source, target] c with hroom | ⟨e', hroom⟩
  · -- Both ends fit, so that nothing after the first check can fail.
    have hfits : c.HasRoom [source, target] := by
      by_contra hn
      rw [ensureRoom_eq, if_neg hn] at hroom
      cases hroom
    have hs : source ∈ [source, target] := by simp
    have ht : target ∈ [source, target] := by simp
    obtain ⟨id, c₁, hok, _⟩ := settles_addRelation hs ht kind attrs c hfits
    rw [hok] at h
    cases h
  · rw [addRelation, bind_of_error hroom] at h
    cases h
    rfl

theorem atomic_enrich (name : String) (attrs : Attributes) : Atomic (enrich name attrs) := by
  intro c e c' h
  rcases addMissing_cases name c with ⟨c₁, hok, _⟩ | ⟨e', herr, _⟩
  · rw [enrich, bind_of_ok hok] at h
    cases h
  · rw [enrich, bind_of_error herr] at h
    cases h
    rfl

end Context

theorem Call.atomic_perform (call : Call) {op : Operator} {least : Nat} (hop : Relating op least) :
    Atomic (call.perform op) := by
  intro c e c' h
  rcases call.perform_cases hop c with ⟨names, hargs, hnames⟩ | ⟨e', herr⟩
  · exact (decided_perform hop hargs hnames).unchanged h
  · rw [herr] at h
    cases h
    rfl

theorem Atomic.committed {α : Type} {x : Act α} (h : Atomic x) : Committed x := by
  intro β first rest hx hfirst hrest c b c₁ hok hne
  cases hr : rest b c₁ with
  | ok a c₂ => exact ⟨a, c₂, rfl⟩
  | error e c₂ =>
      -- A failure of the rest would have to take the first part's events back.
      have hback : c₂ = c := h c e c₂ (by rw [hx, bind_of_ok hok, hr])
      have hgrown : c.events <+: c₁.events := by
        have := (hfirst c).events
        rwa [hok] at this
      have hkept : c₁.events <+: c.events := by
        have := (hrest b c₁).events
        rwa [hr, after_error, hback] at this
      exact absurd (hkept.eq_of_length_le hgrown.length_le) hne

theorem failure_leaves_context_unchanged :
    (∀ name attrs, Atomic (Context.addEntity name attrs)) ∧
    (∀ source target kind attrs, Atomic (Context.addRelation source target kind attrs)) ∧
    (∀ name attrs, Atomic (Context.enrich name attrs)) ∧
    ∀ (call : Call) (op : Operator) (least : Nat), Relating op least →
      Atomic (call.perform op) ∧ Committed (call.perform op) :=
  ⟨atomic_addEntity, atomic_addRelation, atomic_enrich, fun call _ _ hop =>
    ⟨call.atomic_perform hop, (call.atomic_perform hop).committed⟩⟩

theorem refused_resynthesis_leaves_context : ∃ c, create "full" Call.full 0 = .ok c ∧
    ∃ count max c',
      Call.resynthesis.perform .sigma c = .error (.limit (.entityCount count max)) c' ∧
        c' = c := by
  obtain ⟨c, hc⟩ := create_of_room "full" 0 (show 6 ≤ Call.full.limits.entities by decide)
  obtain ⟨count, max, c', hfail⟩ := Call.resynthesis_refused hc
  obtain ⟨_, _, _, hperform⟩ := failure_leaves_context_unchanged
  obtain ⟨hatomic, _⟩ := hperform Call.resynthesis .sigma 2 .sigma
  exact ⟨c, hc, count, max, c', hfail, hatomic c _ c' hfail⟩

end GestureGraph
