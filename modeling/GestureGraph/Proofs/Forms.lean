import GestureGraph.Proofs.Ceilings
import GestureGraph.Proofs.Tally

namespace GestureGraph

namespace Value

mutual

/-- The heads of the forms that are evaluated with an expression. Under a head without a gesture
nothing more is evaluated, and keyword values never are. -/
def formHeads (r : Registry) : Value → List String
  | .list (.str symbol :: operands) =>
      if r.contains symbol then symbol :: operandHeads r operands else [symbol]
  | _ => []

def operandHeads (r : Registry) : List Value → List String
  | [] => []
  | [v] => if v.isKeyword then [] else formHeads r v
  | v :: w :: rest =>
      if v.isKeyword then operandHeads r rest else formHeads r v ++ operandHeads r (w :: rest)

end

theorem operandHeads_eq (r : Registry) (operands : List Value) :
    operandHeads r operands = (Operands.split operands).positional.flatMap (formHeads r) := by
  fun_induction Operands.split operands with
  | case1 => rfl
  | case2 v key hk =>
      have hv : v.isKeyword = true := by simp [isKeyword, hk]
      simp [operandHeads, hv]
  | case3 v hk =>
      have hv : v.isKeyword = false := by simp [isKeyword, hk]
      simp [operandHeads, hv]
  | case4 v w rest key hk ops ih =>
      have hv : v.isKeyword = true := by simp [isKeyword, hk]
      simpa [operandHeads, hv] using ih
  | case5 v w rest hk ops ih =>
      have hv : v.isKeyword = false := by simp [isKeyword, hk]
      simp [operandHeads, hv, ih, ops]

theorem formHeads_of_malformed (r : Registry) {v : Value}
    (h : ∀ symbol operands, v ≠ .list (.str symbol :: operands)) : formHeads r v = [] := by
  fun_cases formHeads r v with
  | case1 symbol operands => exact absurd rfl (h symbol operands)
  | case2 symbol operands => exact absurd rfl (h symbol operands)
  | case3 => rfl

end Value

def Registry.credited (r : Registry) (head : String) : String :=
  if r.contains head then head else Operator.alpha.glyph

theorem Registry.count_credited {r : Registry} {symbol : String} (h : r.contains symbol = true)
    (heads : List String) :
    (heads.map r.credited).count symbol = heads.count symbol +
      if symbol = Operator.alpha.glyph then heads.countP fun head => !r.contains head else 0 := by
  induction heads with
  | nil => simp
  | cons head rest ih =>
      rw [List.map_cons, List.count_cons, List.count_cons, List.countP_cons, ih, Registry.credited]
      by_cases hhead : r.contains head = true
      · simp only [hhead, if_true, Bool.not_true, Bool.false_eq_true, if_false, Nat.add_zero]
        omega
      · have hne : head ≠ symbol := fun heq => hhead (heq ▸ h)
        by_cases hs : Operator.alpha.glyph = symbol
        · subst hs
          simp only [hhead, hne, beq_iff_eq, Bool.not_false, Bool.false_eq_true, if_true, if_false]
          omega
        · simp [hhead, hne, hs, Ne.symm hs]

namespace Watched

variable {α β : Type} {r : Registry} {heads : List String}

/-- A step that calls at most one gesture for each of some forms and for each limit it recovers from
and, if it succeeds without a limit, exactly the gestures that the forms are counted under. -/
structure Credits (r : Registry) (heads : List String) (x : Watched .plain α) : Prop where
  counted : Counted x
  bounded : ∀ m, r.Before m.gestures →
    (calledIn (x.trail m)).length ≤ heads.length + (recoveredIn (x.trail m)).length
  exactly : r.Orderly → ∀ m a m', r.Before m.gestures → x.run m = .ok a m' →
    limitsOf (x.trail m) = [] → (calledIn (x.trail m)).Perm (heads.map r.credited)

theorem credits_of_silent {x : Watched .plain α} (hx : Counted x)
    (ht : ∀ m, calledIn (x.trail m) = []) : Credits r [] x where
  counted := hx
  bounded m _ := by simp [ht]
  exactly _ m _ _ _ _ _ := by simp [ht]

theorem credits_pure (a : α) : Credits r [] (pure a : Watched .plain α) :=
  credits_of_silent (counted_of_silent (fun _ => rfl) fun _ => rfl) fun _ => rfl

theorem credits_act (what : Move) (a : Act α) : Credits r [] (act what a) :=
  credits_of_silent (counted_act what a) (calledIn_act what a)

theorem credits_execute (g : Gesture) (call : Call) : Credits r [] (execute g call) :=
  credits_of_silent (counted_execute g call) (calledIn_execute g call)

theorem credits_bind {more : List String} {x : Watched .plain α} {f : α → Watched .plain β}
    (hx : Credits r heads x) (hf : ∀ a, Credits r more (f a)) :
    Credits r (heads ++ more) (x >>= f) where
  counted := counted_bind hx.counted fun a => (hf a).counted
  bounded m hm := by
    have hfirst := hx.bounded m hm
    cases hr : x.run m with
    | error e m' =>
        rw [trail_bind_of_error hr, List.length_append]
        omega
    | ok a m' =>
        have hrest := (hf a).bounded m' (hx.counted.before hm hr)
        rw [trail_bind_of_ok hr, calledIn_append, recoveredIn_append, List.length_append,
          List.length_append, List.length_append]
        omega
  exactly ho m b m'' hm hrun hfree := by
    cases hr : x.run m with
    | error e m' =>
        rw [run_bind_of_error hr] at hrun
        cases hrun
    | ok a m' =>
        have hm' := hx.counted.before hm hr
        rw [run_bind_of_ok hr] at hrun
        rw [trail_bind_of_ok hr, limitsOf_append, List.append_eq_nil_iff] at hfree
        rw [trail_bind_of_ok hr, calledIn_append, List.map_append]
        exact (hx.exactly ho m a m' hm hr hfree.1).append
          ((hf a).exactly ho m' b m'' hm' hrun hfree.2)

theorem credits_look_of_before {f : Machine → Watched .plain α} (hf : Counted (look f))
    (h : ∀ m, r.Before m.gestures → Credits r heads (f m)) : Credits r heads (look f) where
  counted := hf
  bounded m hm := (h m hm).bounded m hm
  exactly ho m a m' hm := (h m hm).exactly ho m a m' hm

theorem credits_look {f : Machine → Watched .plain α} (h : ∀ m, Credits r heads (f m)) :
    Credits r heads (look f) :=
  credits_look_of_before (fun m => (h m).counted m) fun m _ => h m

theorem credits_begin {g : Gesture} {symbol : String}
    (h : r.Orderly → g.symbol = r.credited symbol) : Credits r [symbol] (begin g) where
  counted := counted_begin g
  bounded m _ := Nat.le_add_right 1 _
  exactly ho m _ _ _ _ _ := by
    show [g.symbol].Perm [r.credited symbol]
    rw [h ho]

theorem credits_call {g : Gesture} {symbol : String}
    (h : r.Orderly → g.symbol = r.credited symbol) (args : List Value) (keywords : Keywords)
    (intentions : List String) : Credits r [symbol] (call g args keywords intentions) :=
  credits_bind (credits_begin h) fun _ =>
    credits_look fun _ => credits_execute g _

theorem credits_callAlpha {name symbol : String} (h : r.contains symbol = false)
    (intentions : List String) : Credits r [symbol] (callAlpha name intentions) := by
  refine credits_look_of_before (counted_closed.callAlpha name intentions) fun m hm => ?_
  refine credits_call (fun ho => ?_) _ _ _
  rw [(hm.orderly ho).alpha, Registry.credited, h]
  rfl

theorem credits_ceilings : Credits r [] ⟨Machine.checkCeilings, fun _ => []⟩ :=
  credits_of_silent (counted_of_silent (fun m => congrArg Machine.gestures m.after_checkCeilings)
    fun _ => rfl) fun _ => rfl

theorem credits_checked {body : Watched .plain Value} (h : Credits r heads body) :
    Credits r heads (checked body) :=
  credits_bind credits_ceilings fun _ => h

theorem credits_guarded {intentions : List String} {body : Watched .plain Value}
    (h : Credits r heads body) : Credits r heads (guarded intentions body) where
  counted := counted_guarded h.counted
  bounded m hm := by
    have hchecked := (credits_checked h).bounded m.enter hm
    have hrescue : (calledIn (rescue intentions ((checked body).run m.enter))).length ≤ _ :=
      calledIn_rescue_le _
    rw [calledIn_guarded, recoveredIn_guarded, List.length_append, List.length_append]
    omega
  exactly ho m v m' hm hrun hfree := by
    rw [limitsOf_guarded, List.append_eq_nil_iff] at hfree
    cases hr : (checked body).run m.enter with
    | ok a t =>
        rw [calledIn_guarded, hr]
        show (calledIn _ ++ []).Perm _
        rw [List.append_nil]
        exact (credits_checked h).exactly ho m.enter a t hm hr hfree.1
    | error e t =>
        cases hlimit : e.isLimit with
        | false =>
            rw [guarded_of_error hr hlimit] at hrun
            cases hrun
        | true =>
            -- A limit that is recovered from is on the trail.
            obtain ⟨l, rfl⟩ := EvalError.eq_limit_of_isLimit hlimit
            rw [hr] at hfree
            cases hfree.2

theorem credits_each {intentions : List String} {operands : List Value}
    (h : ∀ v ∈ (Operands.split operands).positional,
      Credits r (v.formHeads r) (evaluate intentions v))
    {use : Value → Watched .plain Value} (huse : ∀ v, Credits r [] (use v)) :
    Credits r (Value.operandHeads r operands) (each intentions operands use) := by
  rw [each, Value.operandHeads_eq]
  generalize (Operands.split operands).positional = args at h
  induction args with
  | nil =>
      rw [List.mapM_nil]
      exact credits_pure []
  | cons v rest ih =>
      have hv : Credits r (v.formHeads r) (reduce intentions v) := by
        cases v with
        | list items => exact h _ List.mem_cons_self
        | _ => exact credits_pure _
      have hrest := ih fun w hw => h w (List.mem_cons_of_mem v hw)
      have hused : Credits r (v.formHeads r) (reduce intentions v >>= use) := by
        simpa using credits_bind hv huse
      rw [List.mapM_cons, List.flatMap_cons]
      refine credits_bind hused fun u => ?_
      simpa using credits_bind hrest fun us => credits_pure (u :: us)

theorem Credits.perm {more : List String} {x : Watched .plain α} (h : Credits r heads x)
    (hperm : heads.Perm more) : Credits r more x where
  counted := h.counted
  bounded m hm := hperm.length_eq ▸ h.bounded m hm
  exactly ho m a m' hm hrun hfree := (h.exactly ho m a m' hm hrun hfree).trans (hperm.map _)

theorem Credits.disorderly {x : Watched .plain α} (h : Credits r heads x) (hr : ¬ r.Orderly)
    (more : List String) : Credits r (heads ++ more) x where
  counted := h.counted
  bounded m hm := by
    have hbound := h.bounded m hm
    rw [List.length_append]
    omega
  exactly ho := absurd ho hr

theorem credits_form (intentions : List String) (symbol : String) {operands : Operands}
    {each : (Value → Watched .plain Value) → Watched .plain (List Value)}
    (heach : ∀ use, (∀ v, Credits r [] (use v)) → Credits r heads (each use))
    (hcounted : Counted (form intentions symbol operands each)) :
    Credits r (if r.contains symbol then symbol :: heads else [symbol])
      (form intentions symbol operands each) := by
  refine credits_look_of_before hcounted fun m hm => ?_
  cases hg : m.gestures.get? symbol with
  | none =>
      have hcontains := hm.contains_of_none hg
      rw [hcontains]
      exact credits_callAlpha hcontains intentions
  | some g =>
      have hcontains := hm.contains_of_some hg
      rw [hcontains, if_pos rfl]
      have hsymbol (ho : r.Orderly) : g.symbol = r.credited symbol := by
        rw [Registry.credited, hcontains]
        exact (hm.orderly ho symbol g hg).1
      have hargs : Credits r heads (each Pure.pure) := heach _ fun v => credits_pure v
      dsimp only
      split
      · split
        · rename_i hcustom
          refine Credits.disorderly (credits_call hsymbol _ _ _) (fun ho => ?_) heads
          have hbuiltIn := (hm.orderly ho symbol g hg).2
          rw [hcustom] at hbuiltIn
          cases hbuiltIn
        · refine credits_bind (credits_begin hsymbol) fun _ => ?_
          refine credits_look fun t => credits_bind (credits_act _ _) fun _ => ?_
          simpa using credits_bind (heach (collapse _) fun v => credits_act _ _) fun names =>
            credits_pure _
        · refine credits_bind (credits_begin hsymbol) fun _ => ?_
          simpa using credits_bind hargs fun args =>
            credits_look fun t => credits_execute g ⟨_, t.depth, args, _, _⟩
      · exact (credits_bind hargs fun args => credits_call hsymbol args _ _).perm
          (List.perm_append_singleton symbol heads)

theorem credits_evaluate (r : Registry) (intentions : List String) (v : Value) :
    Credits r (v.formHeads r) (evaluate intentions v) := by
  induction v using Value.operand_induction with
  | form symbol operands ih =>
      rw [evaluate_form, Value.formHeads]
      refine credits_guarded (credits_form intentions symbol (fun use => credits_each ih) ?_)
      exact counted_closed.form intentions symbol _ fun use =>
        counted_closed.each (fun w _ => counted_closed.evaluate intentions w) use
  | other v hv =>
      rw [Value.formHeads_of_malformed r hv]
      rcases evaluate_other (X := .plain) intentions hv with ⟨items, rfl, h⟩ | ⟨_, h⟩
      · rw [h]
        exact credits_guarded (credits_of_silent (fun _ => rfl) fun _ => rfl)
      · rw [h]
        exact credits_guarded (credits_pure v)

end Watched

namespace Machine

theorem every_form_is_called_once (intentions : List String) (expr : Value) (m : Machine) :
    (∀ v m', m.gestures.IsStandard → evaluate intentions expr m = .ok v m' →
      (∀ t ∈ (Watched.evaluate intentions expr).trail m, t.happening.limit? = none) →
      ∀ symbol, m.gestures.contains symbol = true →
        m'.gestures.callsUnder symbol = m.gestures.callsUnder symbol +
          ((expr.formHeads m.gestures).count symbol +
            if symbol = Operator.alpha.glyph then
              (expr.formHeads m.gestures).countP fun head => !m.gestures.contains head
            else 0)) ∧
    (after (evaluate intentions expr m)).gestures.totalCalls ≤ m.gestures.totalCalls +
      ((expr.formHeads m.gestures).length +
        (recoveredIn ((Watched.evaluate intentions expr).trail m)).length) := by
  have hcredits := Watched.credits_evaluate m.gestures intentions expr
  have hcounted := hcredits.counted m
  rw [Watched.run_evaluate] at hcounted
  constructor
  · intro v m' hstandard hrun hfree symbol hsymbol
    rw [hrun, after_ok] at hcounted
    rw [← limitsOf_eq_nil_iff] at hfree
    have hperm := hcredits.exactly hstandard.orderly m v m' (.refl _)
      (by rw [Watched.run_evaluate, hrun]) hfree
    rw [hcounted, Registry.callsUnder_countAll hsymbol, hperm.count_eq,
      Registry.count_credited hsymbol]
  · have hbound := hcredits.bounded m (.refl _)
    have htotal := m.gestures.totalCalls_countAll_le
      (calledIn ((Watched.evaluate intentions expr).trail m))
    rw [hcounted]
    omega

def nested : Value :=
  .list [.str "Σ", .list [.str "Alpha", .list [.str "Α", .str "a"]],
    .list [.str "echo", .list [.str "Α", .str "c"]], .str ":name", .list [.str "Α", .str "d"]]

theorem nested_forms_are_called_once : ∃ v m', Registry.builtIn.IsStandard ∧
    evaluate [] nested (clocked 0) = .ok v m' ∧
    (∀ t ∈ (Watched.evaluate [] nested).trail (clocked 0), t.happening.limit? = none) ∧
    m'.gestures.callsUnder "Σ" = 1 ∧ m'.gestures.callsUnder "Alpha" = 1 ∧
    m'.gestures.callsUnder "Α" = 2 ∧ m'.gestures.callsUnder "Ω" = 0 := by
  have hfree : limitsOf ((Watched.evaluate [] nested).trail (clocked 0)) = [] := by decide +kernel
  have hok : (outcome (evaluate [] nested (clocked 0))).isOk = true := by decide +kernel
  rw [limitsOf_eq_nil_iff] at hfree
  cases hrun : evaluate [] nested (clocked 0) with
  | error e m' =>
      rw [hrun] at hok
      cases hok
  | ok v m' =>
      have hcalls := (every_form_is_called_once [] nested (clocked 0)).1 v m'
        Registry.isStandard_builtIn hrun hfree
      refine ⟨v, m', Registry.isStandard_builtIn, rfl, hfree, ?_, ?_, ?_, ?_⟩
      · rw [hcalls "Σ" (by decide +kernel)]
        decide +kernel
      · rw [hcalls "Alpha" (by decide +kernel)]
        decide +kernel
      · rw [hcalls "Α" (by decide +kernel)]
        decide +kernel
      · rw [hcalls "Ω" (by decide +kernel)]
        decide +kernel

end Machine

end GestureGraph
