import GestureGraph.Proofs.Comparison
import GestureGraph.Proofs.Creation
import GestureGraph.Proofs.Essence

namespace GestureGraph

namespace Context

theorem agree_registerBlindSpots {L : Axioms → Axioms → Prop} {c c' : Context}
    (entries : List (String × String)) (h : Agree L c c') :
    Agree L (entries.foldl (fun c (key, text) => c.registerBlindSpot key text) c)
      (entries.foldl (fun c (key, text) => c.registerBlindSpot key text) c') := by
  induction entries generalizing c c' with
  | nil => exact h
  | cons entry rest ih =>
      obtain ⟨key, text⟩ := entry
      exact ih (h.change (essential_registerBlindSpot key text))

theorem steady_raised {excused : EvalError → Prop} (h : ∀ e, excused (.limit e)) :
    Steady (Agree Axioms.Raised) excused :=
  steady_agree (fun _ _ h => h) fun _ _ _ => Or.inl h

theorem agree_create {axioms axioms' : Axioms} (hraised : axioms.Raised axioms')
    (hblind : axioms'.blindSpots = axioms.blindSpots) {name : String} {now : Nat} {c : Context}
    (h : create name axioms now = .ok c) (now' : Nat) :
    ∃ c', create name axioms' now' = .ok c' ∧ Agree Axioms.Raised c c' := by
  have hsteady : Steady (Agree Axioms.Raised) fun _ => True := steady_raised fun _ => trivial
  have hrequired : Agree Axioms.Raised (bare name axioms now).withRequired
      (bare name axioms' now').withRequired := by
    have hbare : Agree Axioms.Raised (bare name axioms now) (bare name axioms' now') :=
      ⟨rfl, hraised⟩
    have hspots : (bare name axioms' now').axioms.blindSpots =
        (bare name axioms now).axioms.blindSpots := hblind
    rw [withRequired, withRequired, hspots]
    exact agree_registerBlindSpots _ hbare
  have hops := nameOperators_of_create h
  have hparallel : ParallelChange (Agree Axioms.Raised) (fun _ => True)
      (nameOperators Operator.all) (nameOperators Operator.all) :=
    parallel_forM _ fun op _ => parallel_discard (parallel_addEntity hsteady.toTacit _ _)
  rcases hparallel _ _ hrequired with ⟨e, t, hfail, _⟩ | halike
  · rw [hops] at hfail
    cases hfail
  · rcases halike.cases with ⟨u, t, c', hc, hops', hagree⟩ | ⟨e, _, t, _, hfail, _⟩
    · rw [hops] at hc
      cases hc
      have hadd : addOperators (bare name axioms' now').withRequired = .ok () c' := hops'
      exact ⟨c', by simp only [create, hadd], hagree⟩
    · rw [hops] at hfail
      cases hfail

end Context

namespace Comparison

/-- The same expressions under ceilings of which the second are as high at least. It goes as far as
no limit is run into. -/
def ceilings : Comparison where
  heads := Eq
  exprs := Eq
  contexts := Context.Agree Axioms.Raised
  spoils h := h.limit?.isSome
  head_refl _ := rfl
  form h := Value.form_of_eq h
  malformed h := Value.malformed_of_eq h
  atom h _ := h.symm
  tacit := (Context.steady_raised fun _ _ => rfl).toTacit
  responses := Or.inr Context.Agree.response
  spoils_failed {e} h := by
    cases e with
    | limit l => exact ⟨l, rfl, fun _ => rfl⟩
    | _ => cases h (.mutate .coherence)

theorem eq_of_agree {r r' : Except EvalError Value} (h : ceilings.Agree r r') : r = r' :=
  h.eq (fun h => h) fun h => h

theorem registries_of_isBuiltIn {r : Registry} (h : r.IsBuiltIn) : ceilings.Registries r r :=
  .of_isBuiltIn (fun h => h) h

end Comparison

theorem limitsOf_eq_nil_iff {trail : List Moment} :
    limitsOf trail = [] ↔ ∀ t ∈ trail, t.happening.limit? = none := by
  simp [limitsOf, List.filterMap_eq_nil_iff]

namespace Machine

theorem raised_ceilings_change_nothing {m m' : Machine}
    (hcontext : m'.context.essence = m.context.essence)
    (hraised : m.context.axioms.Raised m'.context.axioms) (hdepth : m'.depth = m.depth)
    (hgestures : m'.gestures = m.gestures) (hbuiltIn : m.gestures.IsBuiltIn)
    {requests : List Request}
    (hfree : ∀ t ∈ trailOf requests m, t.happening.limit? = none) :
    (∀ t ∈ trailOf requests m', t.happening.limit? = none) ∧
    outcomes requests m' = outcomes requests m ∧
    (run requests m').context.essence = (run requests m).context.essence := by
  have htwin : Comparison.ceilings.Twin m m' := by
    refine ⟨⟨hcontext, hraised⟩, hdepth, ?_, Or.inl fun _ => rfl⟩
    rw [hgestures]
    exact Comparison.registries_of_isBuiltIn hbuiltIn
  have hrequests : Comparison.ceilings.Requests requests requests :=
    List.forall₂_same.mpr fun _ _ => ⟨rfl, rfl⟩
  rcases Comparison.twin_requests hrequests htwin with ⟨t, ht, hs⟩ | ⟨hagree, hend, hlimits⟩
  · have hs : t.happening.limit?.isSome := hs
    rw [hfree t ht] at hs
    cases hs
  · refine ⟨?_, ?_, hend.context.essence⟩
    · rw [← limitsOf_eq_nil_iff] at hfree ⊢
      exact hlimits.trans hfree
    · have heq := hagree.imp fun _ _ => Comparison.eq_of_agree
      exact (List.forall₂_eq_eq_eq ▸ heq).symm

def tight : Axioms := ⟨{ recursionDepth := 2, entities := 7 }, [], {}, {}⟩

def wide : Axioms := { tight with limits := {} }

def conversation : List Request :=
  [⟨["why"], .list [.str "Φ", .list [.str "Alpha", .str "a"], .str "b"]⟩,
    ⟨[], .list [.str "Ω", .str "a"]⟩]

theorem conversation_under_raised_ceilings : ∃ c c', Context.create "talk" tight 0 = .ok c ∧
    Context.create "talk" wide 1 = .ok c' ∧ c'.essence = c.essence ∧ tight.Raised wide ∧
    (∀ t ∈ trailOf conversation { context := c }, t.happening.limit? = none) ∧
    outcomes conversation { context := c' } = outcomes conversation { context := c } ∧
    (run conversation { context := c' }).context.essence =
      (run conversation { context := c }).context.essence := by
  obtain ⟨c, hc, hfree⟩ : ∃ c, Context.create "talk" tight 0 = .ok c ∧
      limitsOf (trailOf conversation { context := c }) = [] := ⟨_, rfl, by decide +kernel⟩
  rw [limitsOf_eq_nil_iff] at hfree
  have hraised : tight.Raised wide := ⟨by decide, by decide⟩
  obtain ⟨c', hc', hagree⟩ := Context.agree_create hraised rfl hc 1
  obtain ⟨_, hresults, hessence⟩ := @raised_ceilings_change_nothing { context := c }
    { context := c' } hagree.essence hagree.axioms rfl rfl Registry.isBuiltIn_builtIn _ hfree
  exact ⟨c, c', hc, hc', hagree.essence, hraised, hfree, hresults, hessence⟩

end Machine

end GestureGraph
