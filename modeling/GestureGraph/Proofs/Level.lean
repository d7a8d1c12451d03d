import GestureGraph.Proofs.Trail

namespace GestureGraph

theorem EvalError.eq_limit_of_isLimit {e : EvalError} (h : e.isLimit = true) :
    ∃ l, e = .limit l := by
  cases e with
  | limit l => exact ⟨l, rfl⟩
  | _ => cases h

structure Extension.Keeps {X : Extension} [Semantics X] [Passage X] {β : Type}
    (f : Machine X → β) : Prop where
  perform : ∀ (code : X.Gesture) call m, f (after (Semantics.perform code call m)) = f m
  performing : ∀ (code : X.Gesture) call m, ∀ t ∈ Passage.performing code call m, f t = f m
  recover : ∀ (code : X.Recovery) e intentions m,
    f (after (Semantics.recover code e intentions m)) = f m
  recovering : ∀ (code : X.Recovery) e intentions m,
    ∀ t ∈ Passage.recovering code e intentions m, f t = f m

namespace Machine

variable {X : Extension} {α : Type}

def ceiling (m : Machine X) : Nat := m.context.axioms.limits.recursionDepth

@[simp] theorem depth_enter (m : Machine X) : m.enter.depth = m.depth + 1 := rfl

@[simp] theorem depth_leave (m : Machine X) : m.leave.depth = m.depth - 1 := rfl

theorem depth_onContext (a : Act α) (m : Machine X) :
    (after (onContext a m)).depth = m.depth := by
  simp only [onContext]
  cases a m.context <;> rfl

structure Untouched {β : Type} (f : Machine X → β) : Prop where
  count : ∀ symbol m, f (after (count symbol m)) = f m
  require : ∀ (call : Call) least m, f (after (onContext (call.requireOperands least) m)) = f m
  collapse : ∀ (call : Call) v m, f (after (onContext (call.collapse v) m)) = f m
  perform : ∀ (call : Call) op m, f (after (onContext (call.perform op) m)) = f m

theorem untouched_depth : Untouched (depth : Machine X → Nat) where
  count _ _ := rfl
  require _ _ := depth_onContext _
  collapse _ _ := depth_onContext _
  perform _ _ := depth_onContext _

theorem checkCeilings_eq (m : Machine X) : checkCeilings m =
    match m.context.axioms.limits.checkDepth m.depth,
      m.context.axioms.limits.checkEntities m.context.nodeCount with
    | .error e, _ => .error (.limit e) m
    | .ok _, .error e => .error (.limit e) m
    | .ok _, .ok _ => .ok () m := by
  show EStateM.bind (lift _) (fun _ => lift _) m = _
  cases m.context.axioms.limits.checkDepth m.depth with
  | error e => rfl
  | ok a => cases m.context.axioms.limits.checkEntities m.context.nodeCount <;> rfl

theorem checkCeilings_cases (m : Machine X) :
    (checkCeilings m = .ok () m ∧ m.depth ≤ m.ceiling) ∨
    (∃ e, checkCeilings m = .error (.limit e) m ∧
      m.context.axioms.limits.checkDepth m.depth = .error e) ∨
    ∃ e, checkCeilings m = .error (.limit e) m ∧
      m.context.axioms.limits.checkEntities m.context.nodeCount = .error e := by
  rw [checkCeilings_eq]
  cases hd : m.context.axioms.limits.checkDepth m.depth with
  | error e => exact Or.inr (Or.inl ⟨e, rfl, rfl⟩)
  | ok a =>
      cases m.context.axioms.limits.checkEntities m.context.nodeCount with
      | error e => exact Or.inr (Or.inr ⟨e, rfl, rfl⟩)
      | ok b => exact Or.inl ⟨rfl, Limits.checkDepth_eq_ok_iff.mp hd⟩

theorem after_checkCeilings (m : Machine X) : after (checkCeilings m) = m := by
  rcases checkCeilings_cases m with ⟨h, _⟩ | ⟨e, h, _⟩ | ⟨e, h, _⟩ <;> rw [h] <;> rfl

variable [Semantics X]

theorem recover_eq (e : LimitError) (intentions : List String) (m : Machine X) :
    ∃ v, recover e intentions m = .ok v (after (recoverBy m.recovery e intentions m)) := by
  simp only [recover]
  cases recoverBy m.recovery e intentions m with
  | ok v m' => exact ⟨v, rfl⟩
  | error e' m' => exact ⟨.nil, rfl⟩

theorem guarded_cases (intentions : List String) (body : Step X Value) (m : Machine X) :
    (∃ v m', (checkCeilings *> body) m.enter = .ok v m' ∧
      guarded intentions body m = .ok v m'.leave) ∨
    (∃ e m' v, (checkCeilings *> body) m.enter = .error (.limit e) m' ∧
      guarded intentions body m = .ok v (after (recoverBy m'.recovery e intentions m')).leave) ∨
    ∃ e m', (checkCeilings *> body) m.enter = .error e m' ∧ e.isLimit = false ∧
      guarded intentions body m = .error e m'.leave := by
  simp only [guarded]
  cases (checkCeilings *> body) m.enter with
  | ok v m' => exact Or.inl ⟨v, m', rfl, rfl⟩
  | error e m' =>
      cases e with
      | limit l =>
          obtain ⟨v, hv⟩ := recover_eq l intentions m'
          refine Or.inr (Or.inl ⟨l, m', v, rfl, ?_⟩)
          simp only [hv]
      | malformed text => exact Or.inr (Or.inr ⟨_, m', rfl, rfl, rfl⟩)
      | arity operator expected actual => exact Or.inr (Or.inr ⟨_, m', rfl, rfl, rfl⟩)
      | unnamed operator operand => exact Or.inr (Or.inr ⟨_, m', rfl, rfl, rfl⟩)

theorem guarded_isLimit {intentions : List String} {body : Step X Value} {m m' : Machine X}
    {e : EvalError} (h : guarded intentions body m = .error e m') : e.isLimit = false := by
  rcases guarded_cases intentions body m with
    ⟨v, m'', _, hg⟩ | ⟨l, m'', v, _, hg⟩ | ⟨e', m'', _, he, hg⟩
  · rw [hg] at h
    cases h
  · rw [hg] at h
    cases h
  · rw [hg] at h
    cases h
    exact he

end Machine

namespace Watched

variable {X : Extension} {α : Type} {intentions : List String} {body : Watched X Value}
  {m : Machine X}

theorem checked_of_error {e : EvalError} (h : Machine.checkCeilings m = .error e m) :
    (checked body).trail m = [] ∧ (checked body).run m = .error e m :=
  ⟨trail_bind_of_error h _, run_bind_of_error h _⟩

variable [Semantics X] [Passage X]

theorem mem_rescue_iff {t : Moment X} {r : EStateM.Result EvalError (Machine X) Value} :
    t ∈ rescue intentions r ↔
      ∃ e m', r = .error (.limit e) m' ∧
        (t = ⟨.limited e, m'⟩ ∨ t ∈ (recoverBy m'.recovery e intentions).trail m') := by
  constructor
  · intro h
    match r, h with
    | .error (.limit e) m', h => exact ⟨e, m', rfl, List.mem_cons.mp h⟩
  · rintro ⟨e, m', rfl, h⟩
    exact List.mem_cons.mpr h

theorem rescue_of_error {e : EvalError} (he : e.isLimit = false) (m : Machine X) :
    rescue intentions (.error e m) = [] := by
  cases e with
  | limit l => cases he
  | _ => rfl

theorem mem_trail_guarded_iff {t : Moment X} :
    t ∈ (guarded intentions body).trail m ↔
      t = ⟨.entered, m.enter⟩ ∨ t ∈ (checked body).trail m.enter ∨
      t ∈ rescue intentions ((checked body).run m.enter) ∨
      t = ⟨.left, after (Machine.guarded intentions body.run m)⟩ := by
  simp only [guarded, List.cons_append, List.mem_cons, List.mem_append, List.not_mem_nil, or_false,
    or_assoc]

theorem run_recoverBy (recovery : Recovery X) (e : LimitError) :
    (recoverBy recovery e intentions).run = Machine.recoverBy recovery e intentions := by
  cases recovery <;> rfl

theorem guarded_of_ok {v : Value} {t : Machine X} (h : (checked body).run m.enter = .ok v t) :
    (guarded intentions body).run m = .ok v t.leave := by
  rw [run_checked] at h
  simp only [guarded, Machine.guarded, h]

theorem guarded_of_error {e : EvalError} {t : Machine X}
    (h : (checked body).run m.enter = .error e t) (he : e.isLimit = false) :
    (guarded intentions body).run m = .error e t.leave := by
  rw [run_checked] at h
  simp only [guarded, Machine.guarded, h]
  cases e with
  | limit l => cases he
  | _ => rfl

theorem guarded_of_limit {l : LimitError} {t : Machine X}
    (h : (checked body).run m.enter = .error (.limit l) t) :
    (guarded intentions body).run m =
      match (recoverBy t.recovery l intentions).run t with
      | .ok v t' => .ok v t'.leave
      | .error _ t' => .ok .nil t'.leave := by
  rw [run_checked] at h
  simp only [guarded, Machine.guarded, h, Machine.recover, run_recoverBy]
  cases Machine.recoverBy t.recovery l intentions t <;> rfl

section steps

omit [Semantics X] [Passage X]

structure Still {β : Type} (f : Machine X → β) (x : Watched X α) : Prop where
  after_eq : ∀ m, f (after (x.run m)) = f m
  trail_eq : ∀ m, ∀ t ∈ x.trail m, f t.machine = f m

/-- A step that leaves the depth as it was and that goes one beyond a bound at most, if it starts
within the bound and no ceiling on its way is above it. -/
structure Balanced (x : Watched X α) : Prop where
  depth_after : ∀ m, (after (x.run m)).depth = m.depth
  depth_le : ∀ m bound, m.depth ≤ bound → (∀ t ∈ x.trail m, t.machine.ceiling ≤ bound) →
    ∀ t ∈ x.trail m, t.machine.depth ≤ bound + 1

variable {β : Type} {f : Machine X → β}

theorem Still.balanced {x : Watched X α} (h : Still Machine.depth x) : Balanced x where
  depth_after := h.after_eq
  depth_le m bound hm _ t ht := by
    rw [h.trail_eq m t ht]
    exact Nat.le_succ_of_le hm

theorem still_of_silent {x : Watched X α} (hr : ∀ m, f (after (x.run m)) = f m)
    (ht : ∀ m, x.trail m = []) : Still f x where
  after_eq := hr
  trail_eq m t h := by simp [ht] at h

theorem still_bind {γ : Type} {x : Watched X α} {g : α → Watched X γ} (hx : Still f x)
    (hg : ∀ a, Still f (g a)) : Still f (x >>= g) where
  after_eq m := by
    have hm := hx.after_eq m
    cases hr : x.run m with
    | error e m' =>
        rw [hr] at hm
        rwa [run_bind_of_error hr]
    | ok a m' =>
        rw [hr] at hm
        rw [run_bind_of_ok hr, (hg a).after_eq]
        exact hm
  trail_eq m t ht := by
    have hm := hx.after_eq m
    cases hr : x.run m with
    | error e m' =>
        rw [trail_bind_of_error hr] at ht
        exact hx.trail_eq m t ht
    | ok a m' =>
        rw [trail_bind_of_ok hr] at ht
        rcases List.mem_append.mp ht with ht | ht
        · exact hx.trail_eq m t ht
        · rw [(hg a).trail_eq m' t ht, ← hm, hr, after_ok]

theorem still_look {g : Machine X → Watched X α} (h : ∀ m, Still f (g m)) : Still f (look g) where
  after_eq m := (h m).after_eq m
  trail_eq m := (h m).trail_eq m

theorem still_begin (hf : Machine.Untouched f) (g : Gesture X) : Still f (begin g) where
  after_eq := hf.count g.symbol
  trail_eq m t ht := by
    obtain rfl := List.mem_singleton.mp ht
    rfl

theorem still_move {what : Move X} {x : Step X α} {through : Machine X → List (Machine X)}
    (h : ∀ m, f (after (x m)) = f m) (hthrough : ∀ m, ∀ t ∈ through m, f t = f m) :
    Still f (move what x through) where
  after_eq := h
  trail_eq m t ht := by
    rcases List.mem_append.mp ht with ht | ht
    · obtain ⟨m', hm', rfl⟩ := List.mem_map.mp ht
      exact hthrough m m' hm'
    · obtain rfl := List.mem_singleton.mp ht
      exact h m

theorem still_act {what : Move X} {a : Act α}
    (h : ∀ m : Machine X, f (after (Machine.onContext a m)) = f m) : Still f (act what a) :=
  still_move h fun _ _ ht => by cases ht

theorem balanced_bind {x : Watched X α} {g : α → Watched X β} (hx : Balanced x)
    (hg : ∀ a, Balanced (g a)) : Balanced (x >>= g) where
  depth_after m := by
    have hd := hx.depth_after m
    cases hr : x.run m with
    | error e m' =>
        rw [run_bind_of_error hr]
        simpa [hr] using hd
    | ok a m' =>
        rw [run_bind_of_ok hr, (hg a).depth_after]
        simpa [hr] using hd
  depth_le m bound hm hc t ht := by
    have hd := hx.depth_after m
    cases hr : x.run m with
    | error e m' =>
        rw [trail_bind_of_error hr] at hc ht
        exact hx.depth_le m bound hm hc t ht
    | ok a m' =>
        rw [trail_bind_of_ok hr] at hc ht
        rcases List.mem_append.mp ht with ht | ht
        · exact hx.depth_le m bound hm (fun t h => hc t (List.mem_append_left _ h)) t ht
        · have hm' : m'.depth ≤ bound := by
            rw [hr, after_ok] at hd
            omega
          exact (hg a).depth_le m' bound hm' (fun t h => hc t (List.mem_append_right _ h)) t ht

theorem balanced_look {g : Machine X → Watched X α} (h : ∀ m, Balanced (g m)) :
    Balanced (look g) where
  depth_after m := (h m).depth_after m
  depth_le m := (h m).depth_le m

theorem still_ceilings : Still f (⟨Machine.checkCeilings, fun _ => []⟩ : Watched X Unit) :=
  still_of_silent (fun m => congrArg f (Machine.after_checkCeilings m)) fun _ => rfl

theorem balanced_checked (h : Balanced body) : Balanced (checked body) :=
  balanced_bind still_ceilings.balanced fun _ => h

end steps

section extended

variable {β : Type} {f : Machine X → β}

theorem still_execute (hcode : Extension.Keeps f) (hf : Machine.Untouched f) (g : Gesture X)
    (call : Call) : Still f (execute g call) := by
  obtain ⟨symbol, kind, behavior, calls⟩ := g
  cases behavior with
  | builtIn => exact still_act (hf.perform call kind)
  | custom code => exact still_move (hcode.perform code call) (hcode.performing code call)

theorem still_respond (hcode : Extension.Keeps f) (code : X.Recovery) (e : LimitError)
    (intentions : List String) : Still f (respond code e intentions) :=
  still_move (hcode.recover code e intentions) (hcode.recovering code e intentions)

theorem still_recoverBy (hcode : Extension.Keeps f) (hf : Machine.Untouched f)
    (recovery : Recovery X) (e : LimitError) (intentions : List String) :
    Still f (recoverBy recovery e intentions) := by
  cases recovery with
  | marker =>
      refine still_look fun m => still_bind (still_begin hf _) fun _ => still_look fun m' => ?_
      exact still_execute hcode hf _ _
  | custom code => exact still_respond hcode code e intentions

end extended

theorem depth_guarded (hcode : Extension.Keeps (Machine.depth : Machine X → Nat))
    (h : Balanced body) (m : Machine X) :
    (after (Machine.guarded intentions body.run m)).depth = m.depth := by
  have hd := (balanced_checked h).depth_after m.enter
  rw [run_checked] at hd
  rcases Machine.guarded_cases intentions body.run m with
    ⟨v, m', hb, hg⟩ | ⟨e, m', v, hb, hg⟩ | ⟨e, m', hb, _, hg⟩
  · rw [hb, after_ok] at hd
    rw [hg, after_ok, Machine.depth_leave, hd, Machine.depth_enter, Nat.add_sub_cancel]
  · rw [hb, after_error] at hd
    have hm' := (still_recoverBy hcode Machine.untouched_depth m'.recovery e intentions).after_eq m'
    rw [run_recoverBy] at hm'
    rw [hg, after_ok, Machine.depth_leave, hm', hd, Machine.depth_enter, Nat.add_sub_cancel]
  · rw [hb, after_error] at hd
    rw [hg, after_error, Machine.depth_leave, hd, Machine.depth_enter, Nat.add_sub_cancel]

theorem balanced_guarded (hcode : Extension.Keeps (Machine.depth : Machine X → Nat))
    (h : Balanced body) : Balanced (guarded intentions body) where
  depth_after := depth_guarded hcode h
  depth_le m bound hm hc t ht := by
    have hd := (balanced_checked h).depth_after m.enter
    have hentered := hc ⟨.entered, m.enter⟩ (mem_trail_guarded_iff.mpr (Or.inl rfl))
    rcases mem_trail_guarded_iff.mp ht with rfl | ht | ht | rfl
    · exact Nat.succ_le_succ hm
    · rcases Machine.checkCeilings_cases m.enter with ⟨hk, hle⟩ | ⟨e, hk, _⟩ | ⟨e, hk, _⟩
      · -- the level was entered under its ceiling, which is at most the bound
        refine (balanced_checked h).depth_le m.enter bound (Nat.le_trans hle hentered) ?_ t ht
        intro t ht
        exact hc t (mem_trail_guarded_iff.mpr (Or.inr (Or.inl ht)))
      · simp [(checked_of_error hk).1] at ht
      · simp [(checked_of_error hk).1] at ht
    · -- recovery is at the depth of the level that ran into the limit
      obtain ⟨e, m', hb, ht⟩ := mem_rescue_iff.mp ht
      rw [hb, after_error, Machine.depth_enter] at hd
      rcases ht with rfl | ht
      · dsimp only
        omega
      · have hstill := still_recoverBy hcode Machine.untouched_depth m'.recovery e intentions
        rw [hstill.trail_eq m' t ht]
        omega
    · dsimp only
      rw [depth_guarded hcode h]
      omega

theorem balanced_closed (hcode : Extension.Keeps (Machine.depth : Machine X → Nat)) :
    Closed (fun _ : Machine X => True) (fun _ x => Balanced x) where
  require call least := (still_act (Machine.untouched_depth.require call least)).balanced
  collapse call v := (still_act (Machine.untouched_depth.collapse call v)).balanced
  execute _ _ call := (still_execute hcode Machine.untouched_depth _ call).balanced
  respond _ _ e intentions := (still_respond hcode _ e intentions).balanced
  pure _ := (still_of_silent (fun _ => rfl) fun _ => rfl).balanced
  bind := balanced_bind
  malformed _ := (still_of_silent (fun _ => rfl) fun _ => rfl).balanced
  look h := balanced_look fun m => h m trivial
  begin g := (still_begin Machine.untouched_depth g).balanced
  guarded _ h := balanced_guarded hcode h

end Watched

end GestureGraph
