import GestureGraph.Proofs.Alteration
import GestureGraph.Proofs.Level

namespace GestureGraph

namespace Machine

variable {X : Extension}

theorem ceiling_onContext {α : Type} {a : Act α} (ha : Keeps Context.Does a)
    (m : Machine X) : (after (onContext a m)).ceiling = m.ceiling := by
  have haxioms := (ha m.context).reaches.frame.2.2
  simp only [onContext]
  cases h : a m.context with
  | ok v c =>
      rw [h, after_ok] at haxioms
      simp only [after_ok, ceiling, haxioms]
  | error e c =>
      rw [h, after_error] at haxioms
      simp only [after_error, ceiling, haxioms]

theorem untouched_ceiling : Untouched (ceiling : Machine X → Nat) where
  count _ _ := rfl
  require call least := ceiling_onContext (call.keeps_requireOperands least)
  collapse call v := ceiling_onContext (call.keeps_collapse v)
  perform call op := ceiling_onContext (call.keeps_perform op)

end Machine

namespace Watched

variable {X : Extension} [Semantics X] [Passage X] {intentions : List String} {expr : Value}

theorem still_guarded {body : Watched X Value} (hcode : Extension.Keeps (X := X) Machine.ceiling)
    (h : Still Machine.ceiling body) : Still Machine.ceiling (guarded intentions body) := by
  have hchecked : Still Machine.ceiling (checked body) := still_bind still_ceilings fun _ => h
  have hrecovery (m : Machine X) (e : LimitError) :=
    still_recoverBy hcode Machine.untouched_ceiling m.recovery e intentions
  have hafter (m : Machine X) :
      (after (Machine.guarded intentions body.run m)).ceiling = m.ceiling := by
    have hm := hchecked.after_eq m.enter
    rw [run_checked] at hm
    rcases Machine.guarded_cases intentions body.run m with
      ⟨v, m', hb, hg⟩ | ⟨e, m', v, hb, hg⟩ | ⟨e, m', hb, _, hg⟩
    · rw [hb] at hm
      rw [hg]
      exact hm
    · rw [hb] at hm
      have hr := (hrecovery m' e).after_eq m'
      rw [run_recoverBy] at hr
      rw [hg]
      exact hr.trans hm
    · rw [hb] at hm
      rw [hg]
      exact hm
  refine ⟨hafter, fun m t ht => ?_⟩
  rcases mem_trail_guarded_iff.mp ht with rfl | ht | ht | rfl
  · rfl
  · exact hchecked.trail_eq m.enter t ht
  · obtain ⟨e, m', hb, ht⟩ := mem_rescue_iff.mp ht
    have hm := hchecked.after_eq m.enter
    rw [hb] at hm
    rcases ht with rfl | ht
    · exact hm
    · exact ((hrecovery m' e).trail_eq m' t ht).trans hm
  · exact hafter m

theorem still_closed (hcode : Extension.Keeps (X := X) Machine.ceiling) :
    Closed (fun _ : Machine X => True) (fun _ x => Still Machine.ceiling x) where
  require call least := still_act (Machine.untouched_ceiling.require call least)
  collapse call v := still_act (Machine.untouched_ceiling.collapse call v)
  execute _ _ call := still_execute hcode Machine.untouched_ceiling _ call
  respond _ _ e intentions := still_respond hcode _ e intentions
  pure _ := still_of_silent (fun _ => rfl) fun _ => rfl
  bind := still_bind
  malformed _ := still_of_silent (fun _ => rfl) fun _ => rfl
  look h := still_look fun m => h m trivial
  begin g := still_begin Machine.untouched_ceiling g
  guarded _ h := still_guarded hcode h

theorem evaluate_eq_guarded (intentions : List String) (expr : Value) :
    ∃ body, (evaluate intentions expr : Watched X Value) = guarded intentions body := by
  induction expr using Value.operand_induction with
  | form symbol operands ih => exact ⟨_, evaluate_form intentions symbol operands⟩
  | other v hv =>
      rcases evaluate_other (X := X) intentions hv with ⟨items, _, h⟩ | ⟨_, h⟩
      · exact ⟨_, h⟩
      · exact ⟨_, h⟩

end Watched

namespace Machine

section containment

variable {X : Extension} [Semantics X] [Passage X]

theorem isLimit_of_evaluate {intentions : List String} {expr : Value} {m m' : Machine X}
    {e : EvalError} (h : evaluate intentions expr m = .error e m') : e.isLimit = false := by
  obtain ⟨body, hb⟩ := Watched.evaluate_eq_guarded (X := X) intentions expr
  rw [← Watched.run_evaluate, hb] at h
  exact guarded_isLimit h

theorem evaluate_contains_limits (hdepth : Extension.Keeps (X := X) depth)
    (intentions : List String) (expr : Value) (m : Machine X) :
    (match evaluate intentions expr m with
      | .ok _ m' => m'.depth = m.depth
      | .error e m' => e.isLimit = false ∧ m'.depth = m.depth) ∧
    (Watched.evaluate intentions expr).run = (evaluate intentions expr : Step X Value) ∧
    (∃ between, (Watched.evaluate intentions expr).trail m =
      ⟨.entered, m.enter⟩ :: between ++ [⟨.left, after (evaluate intentions expr m)⟩]) ∧
    (m.depth = 0 →
      (∀ bound, (∀ t ∈ (Watched.evaluate intentions expr).trail m, t.machine.ceiling ≤ bound) →
        ∀ t ∈ (Watched.evaluate intentions expr).trail m, t.machine.depth ≤ bound + 1) ∧
      (Extension.Keeps (X := X) ceiling →
        ∀ t ∈ (Watched.evaluate intentions expr).trail m, t.machine.depth ≤ m.ceiling + 1)) := by
  have hb := (Watched.balanced_closed hdepth).evaluate intentions expr
  refine ⟨?_, Watched.run_evaluate intentions expr, ?_, ?_⟩
  · have hd := hb.depth_after m
    rw [Watched.run_evaluate] at hd
    cases h : evaluate intentions expr m with
    | ok v m' =>
        rw [h] at hd
        exact hd
    | error e m' =>
        rw [h] at hd
        exact ⟨isLimit_of_evaluate h, hd⟩
  · obtain ⟨body, hbody⟩ := Watched.evaluate_eq_guarded (X := X) intentions expr
    rw [← Watched.run_evaluate, hbody]
    exact ⟨_, rfl⟩
  · intro h0
    have hstart : ∀ bound, m.depth ≤ bound := fun bound => h0 ▸ Nat.zero_le bound
    refine ⟨fun bound => hb.depth_le m bound (hstart bound), fun hceiling => ?_⟩
    refine hb.depth_le m m.ceiling (hstart _) ?_
    intro t ht
    have hstill := (Watched.still_closed hceiling).evaluate intentions expr
    exact Nat.le_of_eq (hstill.trail_eq m t ht)

end containment

end Machine

/-- Gestures and a recovery that count their calls, replace the registry and run into limits; the
gestures name an entity through the operator as well. -/
abbrev Extension.meddling : Extension := ⟨Unit, Unit, Nat⟩

namespace Extension.meddling

def noticed (call : Call) (m : Machine meddling) : Machine meddling :=
  let named := after (Machine.onContext (call.collapse (.str "noticed"))
    (after (Machine.count Operator.alpha.glyph m)))
  { named with memory := m.memory + 1 }

instance : Semantics meddling where
  perform _ call m := .error (.limit (.entityCount 2 1))
    { noticed call m with
      gestures := Registry.register {} { symbol := "x", kind := .sigma, behavior := .custom () } }
  recover _ e _ m := .error (.limit e) { m with gestures := {}, memory := m.memory + 1 }

instance : Passage meddling where
  performing _ call m := [noticed call m]
  recovering _ _ _ m := [{ m with gestures := {} }]

theorem keeps_depth : Extension.Keeps (X := meddling) Machine.depth where
  perform _ _ _ := Machine.depth_onContext _ _
  performing _ call m t ht := by
    obtain rfl := List.mem_singleton.mp ht
    exact Machine.depth_onContext _ _
  recover _ _ _ _ := rfl
  recovering _ _ _ m t ht := by
    obtain rfl := List.mem_singleton.mp ht
    rfl

theorem keeps_ceiling : Extension.Keeps (X := meddling) Machine.ceiling where
  perform _ call _ := Machine.ceiling_onContext (call.keeps_collapse _) _
  performing _ call m t ht := by
    obtain rfl := List.mem_singleton.mp ht
    exact Machine.ceiling_onContext (call.keeps_collapse _) _
  recover _ _ _ _ := rfl
  recovering _ _ _ m t ht := by
    obtain rfl := List.mem_singleton.mp ht
    rfl

end Extension.meddling

namespace Machine

def stubborn : Machine .meddling where
  context := Context.bare "stubborn" ⟨{ recursionDepth := 1 }, [], {}, {}⟩ 0
  gestures := Registry.register {} { symbol := "x", kind := .lambda, behavior := .custom () }
  recovery := .custom ()
  memory := 0

theorem stubborn_contains_limits :
    Extension.Keeps (X := .meddling) depth ∧ Extension.Keeps (X := .meddling) ceiling ∧
    stubborn.depth = 0 ∧
    ∀ t ∈ (Watched.evaluate [] (.list [.str "x", .list [.str "x", .list [.str "x"]]])).trail
        stubborn, t.machine.depth ≤ stubborn.ceiling + 1 :=
  ⟨Extension.meddling.keeps_depth, Extension.meddling.keeps_ceiling, rfl,
    (evaluate_contains_limits Extension.meddling.keeps_depth [] _ stubborn).2.2.2 rfl
      |>.2 Extension.meddling.keeps_ceiling⟩

end Machine

end GestureGraph
