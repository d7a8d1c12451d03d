import GestureGraph.Proofs.Containment
import GestureGraph.Proofs.Parallel
import GestureGraph.Proofs.Run
import Mathlib.Data.List.Forall2

/-!
Evaluations side by side. From machines that are twins, expressions that are alike evaluate alike
and leave twins behind, unless something happens in the first evaluation that puts an end to the
comparison.
-/

namespace GestureGraph

theorem Value.form_of_eq {symbol : String} {operands : List Value} {v : Value}
    (h : Value.list (.str symbol :: operands) = v) :
    ∃ symbol' operands', v = .list (.str symbol' :: operands') ∧ symbol = symbol' ∧
      (Operands.split operands').keywords = (Operands.split operands).keywords ∧
      List.Forall₂ Eq (Operands.split operands).positional
        (Operands.split operands').positional := by
  cases h
  exact ⟨_, _, rfl, rfl, rfl, List.forall₂_same.mpr fun _ _ => rfl⟩

theorem Value.malformed_of_eq {items : List Value} {v : Value} (h : Value.list items = v)
    (hne : ∀ symbol operands, Value.list items ≠ .list (.str symbol :: operands)) :
    ∃ items', v = .list items' ∧
      ∀ symbol operands, Value.list items' ≠ .list (.str symbol :: operands) :=
  ⟨items, h.symm, hne⟩

/-- In what two evaluations may differ: the heads of forms, the expressions that have them, and the
contexts; and which happenings spoil the comparison. -/
structure Comparison where
  heads : String → String → Prop
  exprs : Value → Value → Prop
  contexts : Context → Context → Prop
  spoils : Happening → Prop
  head_refl : ∀ symbol, heads symbol symbol
  form : ∀ {symbol operands v}, exprs (.list (.str symbol :: operands)) v →
    ∃ symbol' operands', v = .list (.str symbol' :: operands') ∧ heads symbol symbol' ∧
      (Operands.split operands').keywords = (Operands.split operands).keywords ∧
      List.Forall₂ exprs (Operands.split operands).positional
        (Operands.split operands').positional
  malformed : ∀ {items v}, exprs (.list items) v →
    (∀ symbol operands, Value.list items ≠ .list (.str symbol :: operands)) →
      ∃ items', v = .list items' ∧
        ∀ symbol operands, Value.list items' ≠ .list (.str symbol :: operands)
  atom : ∀ {v v'}, exprs v v' → v.isAtom = true → v' = v
  tacit : Tacit contexts fun e => ∀ what, spoils (.failed what e)
  responses : (∀ g : Gesture, g.kind = .phi → spoils (.called g)) ∨
    ∀ {c c'}, contexts c c' → ∀ prompt, Call.response c' prompt = Call.response c prompt
  spoils_failed : ∀ {e}, (∀ what, spoils (.failed what e)) →
    ∃ l, e = .limit l ∧ ∀ l', spoils (.limited l')

def limitsOf (trail : List Moment) : List LimitError := trail.filterMap (·.happening.limit?)

theorem limitsOf_append (trail more : List Moment) :
    limitsOf (trail ++ more) = limitsOf trail ++ limitsOf more := List.filterMap_append

theorem limitsOf_guarded (intentions : List String) (body : Watched .plain Value) (m : Machine) :
    limitsOf ((Watched.guarded intentions body).trail m) =
      limitsOf ((Watched.checked body).trail m.enter) ++
        limitsOf (Watched.rescue intentions ((Watched.checked body).run m.enter)) := by
  simp [limitsOf, Watched.guarded, Happening.limit?]

namespace Comparison

variable (K : Comparison)

abbrev Akin : EvalError → EvalError → Prop := EvalError.Akin K.heads K.exprs

abbrev ParallelActs {α : Type} (a a' : Act α) : Prop :=
  Call.ParallelAct K.heads K.exprs K.contexts (fun e => ∀ what, K.spoils (.failed what e)) a a'

structure AkinGestures (g g' : Gesture) : Prop where
  kind : g'.kind = g.kind
  symbol : K.heads g.symbol g'.symbol
  behavior : g.behavior = .builtIn
  behavior' : g'.behavior = .builtIn

/-- Gestures with one act of their own, which goes alike in related contexts or spoils the
comparison by its call. Operands may reach it as they are written, so these must not differ. -/
structure OwnGestures (g g' : Gesture) : Prop where
  exprs : ∀ {v v'}, K.exprs v v' → v' = v
  kind : g'.kind = g.kind
  symbol : g'.symbol = g.symbol
  act : ∃ act, g.behavior = .custom act ∧ g'.behavior = .custom act ∧
    ((∀ calls, K.spoils (.called { g with calls := calls })) ∨
      ∀ call, K.ParallelActs (act call) (act call))

inductive Found : String → String → Option Gesture → Option Gesture → Prop
  | none (symbol : String) : Found symbol symbol none none
  | some {symbol symbol' : String} {g g' : Gesture} (h : K.AkinGestures g g') :
      Found symbol symbol' (some g) (some g')
  | own {symbol symbol' : String} {g g' : Gesture} (h : K.OwnGestures g g') :
      Found symbol symbol' (some g) (some g')

def Registries (r r' : Registry) : Prop :=
  ∀ symbol symbol', K.heads symbol symbol' →
    K.Found symbol symbol' (r.get? symbol) (r'.get? symbol')

structure Twin (m m' : Machine) : Prop where
  context : K.contexts m.context m'.context
  depth : m'.depth = m.depth
  gestures : K.Registries m.gestures m'.gestures
  recovery : (∀ l, K.spoils (.limited l)) ∨ m'.recovery = m.recovery ∧
    ∀ f, m.recovery = .custom f → ∀ e intentions, K.ParallelActs (f e intentions) (f e intentions)

theorem AkinGestures.count {K : Comparison} {g g' : Gesture} (h : K.AkinGestures g g')
    (n n' : Nat) : K.AkinGestures { g with calls := n } { g' with calls := n' } :=
  ⟨h.kind, h.symbol, h.behavior, h.behavior'⟩

theorem OwnGestures.count {K : Comparison} {g g' : Gesture} (h : K.OwnGestures g g')
    (n n' : Nat) : K.OwnGestures { g with calls := n } { g' with calls := n' } :=
  ⟨h.exprs, h.kind, h.symbol, h.act⟩

theorem Found.count {K : Comparison} {s s' : String} {g? g'? : Option Gesture}
    (h : K.Found s s' g? g'?) (counted counted' : Prop) [Decidable counted] [Decidable counted'] :
    K.Found s s'
      (if counted then g?.map fun g => { g with calls := g.calls + 1 } else g?)
      (if counted' then g'?.map fun g => { g with calls := g.calls + 1 } else g'?) := by
  cases h with
  | none => simpa using .none s
  | @some _ g g' h =>
      split
      · split
        · exact .some (h.count _ _)
        · exact .some (h.count _ g'.calls)
      · split
        · exact .some (h.count g.calls _)
        · exact .some h
  | @own _ g g' h =>
      split
      · split
        · exact .own (h.count _ _)
        · exact .own (h.count _ g'.calls)
      · split
        · exact .own (h.count g.calls _)
        · exact .own h

theorem Registries.count {K : Comparison} {r r' : Registry} (h : K.Registries r r')
    (symbol symbol' : String) : K.Registries (r.count symbol) (r'.count symbol') := by
  intro s s' hs
  rw [Registry.get?_count, Registry.get?_count]
  exact (h s s' hs).count _ _

theorem Registries.of_isBuiltIn {K : Comparison} (hheads : ∀ {s s'}, K.heads s s' → s = s')
    {r : Registry} (h : r.IsBuiltIn) : K.Registries r r := by
  intro symbol symbol' hs
  obtain rfl := hheads hs
  cases hg : r.get? symbol with
  | none => exact .none symbol
  | some g => exact .some ⟨rfl, K.head_refl _, h symbol g hg, h symbol g hg⟩

namespace Twin

variable {K : Comparison} {m m' : Machine}

theorem enter (h : K.Twin m m') : K.Twin m.enter m'.enter :=
  ⟨h.context, congrArg (· + 1) h.depth, h.gestures, h.recovery⟩

theorem leave (h : K.Twin m m') : K.Twin m.leave m'.leave :=
  ⟨h.context, congrArg (· - 1) h.depth, h.gestures, h.recovery⟩

theorem count (h : K.Twin m m') (symbol symbol' : String) :
    K.Twin { m with gestures := m.gestures.count symbol }
      { m' with gestures := m'.gestures.count symbol' } :=
  ⟨h.context, h.depth, h.gestures.count symbol symbol', h.recovery⟩

theorem move (h : K.Twin m m') {c c' : Context} (hc : K.contexts c c') :
    K.Twin { m with context := c } { m' with context := c' } :=
  ⟨hc, h.depth, h.gestures, h.recovery⟩

theorem alpha (h : K.Twin m m') : K.AkinGestures m.gestures.alpha m'.gestures.alpha ∨
    K.OwnGestures m.gestures.alpha m'.gestures.alpha := by
  have hfound := h.gestures Operator.alpha.glyph _ (K.head_refl _)
  rw [Registry.alpha, Registry.alpha]
  generalize m.gestures.get? Operator.alpha.glyph = g?,
    m'.gestures.get? Operator.alpha.glyph = g'? at hfound
  cases hfound with
  | none => exact Or.inl ⟨rfl, K.head_refl _, rfl, rfl⟩
  | some h => exact Or.inl h
  | own h => exact Or.inr h

end Twin

def Spoilt {α : Type} (x : Watched .plain α) (m : Machine) : Prop :=
  (∃ t ∈ x.trail m, K.spoils t.happening) ∨
    ∃ e m', x.run m = .error e m' ∧ ∀ what, K.spoils (.failed what e)

def Twinned {α : Type} (x y : Watched .plain α) : Prop :=
  ∀ m m', K.Twin m m' → K.Spoilt x m ∨
    Alike K.Akin K.Twin (x.run m) (y.run m') ∧ limitsOf (y.trail m') = limitsOf (x.trail m)

variable {K : Comparison} {α β : Type}

theorem Spoilt.bind {x : Watched .plain α} {m : Machine} (h : K.Spoilt x m)
    (f : α → Watched .plain β) : K.Spoilt (x >>= f) m := by
  rcases h with ⟨t, ht, hs⟩ | ⟨e, m', hx, hs⟩
  · exact Or.inl ⟨t, List.mem_append_left _ ht, hs⟩
  · exact Or.inr ⟨e, m', Watched.run_bind_of_error hx f, hs⟩

theorem Spoilt.bind_right {x : Watched .plain α} {f : α → Watched .plain β} {m m' : Machine}
    {a : α} (hx : x.run m = .ok a m') (h : K.Spoilt (f a) m') : K.Spoilt (x >>= f) m := by
  rcases h with ⟨t, ht, hs⟩ | ⟨e, m'', hf, hs⟩
  · refine Or.inl ⟨t, ?_, hs⟩
    rw [Watched.trail_bind_of_ok hx]
    exact List.mem_append_right _ ht
  · exact Or.inr ⟨e, m'', (Watched.run_bind_of_ok hx f).trans hf, hs⟩

theorem twinned_pure (a : α) : K.Twinned (pure a : Watched .plain α) (pure a) :=
  fun _ _ h => Or.inr ⟨.ok a h, rfl⟩

theorem twinned_fail {e e' : EvalError} (h : K.Akin e e') :
    K.Twinned (Watched.fail e : Watched .plain α) (Watched.fail e') :=
  fun _ _ hm => Or.inr ⟨.error h hm, rfl⟩

theorem twinned_bind {x y : Watched .plain α} {f g : α → Watched .plain β} (hx : K.Twinned x y)
    (hf : ∀ a, K.Twinned (f a) (g a)) : K.Twinned (x >>= f) (y >>= g) := by
  intro m m' hm
  rcases hx m m' hm with hs | ⟨halike, hlimits⟩
  · exact Or.inl (hs.bind f)
  · rcases halike.cases with ⟨a, t, t', hxm, hym, ht⟩ | ⟨e, e', t, t', hxm, hym, he, ht⟩
    · rcases hf a t t' ht with hs | ⟨hrest, hmore⟩
      · exact Or.inl (.bind_right hxm hs)
      · rw [Watched.run_bind_of_ok hxm, Watched.run_bind_of_ok hym, Watched.trail_bind_of_ok hxm,
          Watched.trail_bind_of_ok hym, limitsOf_append, limitsOf_append, hlimits, hmore]
        exact Or.inr ⟨hrest, rfl⟩
    · rw [Watched.run_bind_of_error hxm, Watched.run_bind_of_error hym,
        Watched.trail_bind_of_error hxm, Watched.trail_bind_of_error hym]
      exact Or.inr ⟨.error he ht, hlimits⟩

theorem twinned_look {f g : Machine → Watched .plain α}
    (h : ∀ m m', K.Twin m m' → K.Twinned (f m) (g m')) :
    K.Twinned (Watched.look f) (Watched.look g) := fun m m' hm => h m m' hm m m' hm

theorem twinned_begin (g g' : Gesture) : K.Twinned (Watched.begin g) (Watched.begin g') :=
  fun _ _ h => Or.inr ⟨.ok () (h.count g.symbol g'.symbol), rfl⟩

theorem limitsOf_act (what : Move) (a : Act α) (m : Machine) :
    limitsOf ((Watched.act what a).trail m) =
      (Happening.ofResult what (Machine.onContext a m)).limit?.toList := by
  show limitsOf [_] = _
  simp only [limitsOf, List.filterMap_cons, List.filterMap_nil]
  cases (Happening.ofResult what (Machine.onContext a m)).limit? <;> rfl

theorem twinned_act {a a' : Act α} (what what' : Move) (h : K.ParallelActs a a') :
    K.Twinned (Watched.act what a) (Watched.act what' a') := by
  intro m m' hm
  rw [limitsOf_act, limitsOf_act, Watched.run_act, Watched.run_act]
  rcases h m.context m'.context hm.context with ⟨e, t, ha, hs⟩ | halike
  · refine Or.inl (Or.inr ⟨e, { m with context := t }, ?_, hs⟩)
    simp only [Watched.run_act, Machine.onContext, ha]
  · rcases halike.cases with ⟨v, t, t', ha, ha', ht⟩ | ⟨e, e', t, t', ha, ha', he, ht⟩
    · simp only [Machine.onContext, ha, ha']
      exact Or.inr ⟨.ok v (hm.move ht), rfl⟩
    · simp only [Machine.onContext, ha, ha']
      refine Or.inr ⟨.error he (hm.move ht), ?_⟩
      cases he with
      | same e => cases e <;> rfl
      | _ => rfl

theorem twinned_called {g g' : Gesture} {f f' : Unit → Watched .plain α}
    (h : ¬ K.spoils (.called g) → K.Twinned (f ()) (f' ())) :
    K.Twinned (Watched.begin g >>= f) (Watched.begin g' >>= f') := by
  by_cases hs : K.spoils (.called g)
  · exact fun m _ _ =>
      Or.inl (Spoilt.bind (Or.inl ⟨⟨.called g, m⟩, List.mem_singleton_self _, hs⟩) f)
  · exact twinned_bind (twinned_begin g g') fun _ => h hs

theorem twinned_perform {g g' : Gesture} (hg : K.AkinGestures g g' ∨ K.OwnGestures g g')
    (hs : ¬ K.spoils (.called g)) (args : List Value) (keywords : Keywords)
    (intentions : List String) :
    K.Twinned
      (Watched.look fun m => Watched.execute g ⟨g.symbol, m.depth, args, keywords, intentions⟩)
      (Watched.look fun m =>
        Watched.execute g' ⟨g'.symbol, m.depth, args, keywords, intentions⟩) := by
  refine twinned_look fun m m' hm => ?_
  rw [Watched.execute_eq_act, Watched.execute_eq_act]
  refine twinned_act _ _ ?_
  rcases hg with hg | hg
  · have hcalls : Call.Akin K.heads ⟨g.symbol, m.depth, args, keywords, intentions⟩
        ⟨g'.symbol, m'.depth, args, keywords, intentions⟩ := ⟨hg.symbol, rfl, rfl, rfl⟩
    simp only [Gesture.perform, hg.behavior, hg.behavior', hg.kind]
    refine Call.parallel_perform K.tacit hcalls rfl fun hphi => ?_
    rcases K.responses with hspoil | hsame
    · exact absurd (hspoil g hphi) hs
    · exact hsame
  · obtain ⟨act, hact, hact', hspoil | hparallel⟩ := hg.act
    · exact absurd (hspoil g.calls) hs
    · simp only [Gesture.perform, hact, hact', hg.symbol, hm.depth]
      exact hparallel _

theorem twinned_call {g g' : Gesture} (hg : K.AkinGestures g g' ∨ K.OwnGestures g g')
    (args : List Value) (keywords : Keywords) (intentions : List String) :
    K.Twinned (Watched.call g args keywords intentions)
      (Watched.call g' args keywords intentions) :=
  twinned_called fun hs => twinned_perform hg hs args keywords intentions

theorem twinned_callAlpha (name : String) (intentions : List String) :
    K.Twinned (Watched.callAlpha name intentions) (Watched.callAlpha name intentions) :=
  twinned_look fun _ _ hm => twinned_call hm.alpha _ _ _

theorem twinned_recoverBy {m m' : Machine} (hm : K.Twin m m') (e : LimitError)
    (intentions : List String) :
    (∀ l, K.spoils (.limited l)) ∨
      K.Twinned (Watched.recoverBy m.recovery e intentions)
        (Watched.recoverBy m'.recovery e intentions) := by
  rcases hm.recovery with hall | ⟨heq, hcustom⟩
  · exact Or.inl hall
  · rw [heq]
    cases hr : m.recovery with
    | marker => exact Or.inr (twinned_callAlpha _ _)
    | custom f => exact Or.inr (twinned_act _ _ (hcustom f hr e intentions))

theorem twinned_ceilings :
    K.Twinned ⟨Machine.checkCeilings, fun _ => []⟩ ⟨Machine.checkCeilings, fun _ => []⟩ := by
  intro m m' hm
  simp only [Spoilt, Machine.checkCeilings_eq, hm.depth, K.tacit.nodeCount hm.context]
  cases hd : m.context.axioms.limits.checkDepth m.depth with
  | error e =>
      rcases K.tacit.depth_refused hm.context m.depth e hd with hs | hd'
      · exact Or.inl (Or.inr ⟨_, m, rfl, hs⟩)
      · rw [hd']
        exact Or.inr ⟨.error (.same _) hm, trivial⟩
  | ok u =>
      rw [K.tacit.depth_granted hm.context m.depth hd]
      cases hn : m.context.axioms.limits.checkEntities m.context.nodeCount with
      | error e =>
          rcases K.tacit.entities_refused hm.context _ e hn with hs | hn'
          · exact Or.inl (Or.inr ⟨_, m, rfl, hs⟩)
          · rw [hn']
            exact Or.inr ⟨.error (.same _) hm, trivial⟩
      | ok u =>
          rw [K.tacit.entities_granted hm.context _ hn]
          exact Or.inr ⟨.ok () hm, trivial⟩

theorem twinned_checked {body body' : Watched .plain Value} (h : K.Twinned body body') :
    K.Twinned (Watched.checked body) (Watched.checked body') :=
  twinned_bind twinned_ceilings fun _ => h

section level

variable {intentions : List String} {body : Watched .plain Value} {m t : Machine}

theorem spoilt_of_limited (hall : ∀ l, K.spoils (.limited l)) {l : LimitError}
    (h : (Watched.checked body).run m.enter = .error (.limit l) t) :
    K.Spoilt (Watched.guarded intentions body) m := by
  refine Or.inl ⟨⟨.limited l, t⟩, Watched.mem_trail_guarded_iff.mpr ?_, hall l⟩
  exact Or.inr (Or.inr (Or.inl (Watched.mem_rescue_iff.mpr ⟨l, t, h, Or.inl rfl⟩)))

theorem Spoilt.guarded (h : K.Spoilt (Watched.checked body) m.enter) :
    K.Spoilt (Watched.guarded intentions body) m := by
  rcases h with ⟨t, ht, hs⟩ | ⟨e, t, hr, hs⟩
  · exact Or.inl ⟨t, Watched.mem_trail_guarded_iff.mpr (Or.inr (Or.inl ht)), hs⟩
  · obtain ⟨l, rfl, hall⟩ := K.spoils_failed hs
    exact spoilt_of_limited hall hr

theorem spoilt_of_recovery {l : LimitError}
    (h : (Watched.checked body).run m.enter = .error (.limit l) t)
    (hs : K.Spoilt (Watched.recoverBy t.recovery l intentions) t) :
    K.Spoilt (Watched.guarded intentions body) m := by
  rcases hs with ⟨s, hmem, hs⟩ | ⟨e, _, _, hs⟩
  · refine Or.inl ⟨s, Watched.mem_trail_guarded_iff.mpr ?_, hs⟩
    exact Or.inr (Or.inr (Or.inl (Watched.mem_rescue_iff.mpr ⟨l, t, h, Or.inr hmem⟩)))
  · obtain ⟨_, _, hall⟩ := K.spoils_failed hs
    exact spoilt_of_limited hall h

variable {body' : Watched .plain Value} {m' t' : Machine}

theorem recovered_alike {l : LimitError} (ht : K.Twin t t')
    (h : (Watched.checked body).run m.enter = .error (.limit l) t)
    (h' : (Watched.checked body').run m'.enter = .error (.limit l) t') :
    K.Spoilt (Watched.guarded intentions body) m ∨
      Alike K.Akin K.Twin ((Watched.guarded intentions body).run m)
        ((Watched.guarded intentions body').run m') ∧
      limitsOf (Watched.rescue intentions (.error (.limit l) t')) =
        limitsOf (Watched.rescue intentions (.error (.limit l) t)) := by
  rcases twinned_recoverBy ht l intentions with hall | hrecover
  · exact Or.inl (spoilt_of_limited hall h)
  rcases hrecover t t' ht with hs | ⟨halike, hlimits⟩
  · exact Or.inl (spoilt_of_recovery h hs)
  refine Or.inr ⟨?_, congrArg (l :: ·) hlimits⟩
  rw [Watched.guarded_of_limit h, Watched.guarded_of_limit h']
  generalize (Watched.recoverBy t.recovery l intentions).run t = r,
    (Watched.recoverBy t'.recovery l intentions).run t' = r' at halike
  cases halike with
  | ok v hs => exact .ok v hs.leave
  | error _ hs => exact .ok Value.nil hs.leave

end level

theorem Akin.isLimit {e e' : EvalError} (h : K.Akin e e') : e'.isLimit = e.isLimit := by
  cases h <;> rfl

theorem twinned_guarded {intentions : List String} {body body' : Watched .plain Value}
    (h : K.Twinned body body') :
    K.Twinned (Watched.guarded intentions body) (Watched.guarded intentions body') := by
  intro m m' hm
  rcases twinned_checked h m.enter m'.enter hm.enter with hs | ⟨halike, hlimits⟩
  · exact Or.inl hs.guarded
  rw [limitsOf_guarded, limitsOf_guarded, hlimits]
  generalize hr : (Watched.checked body).run m.enter = r,
    hr' : (Watched.checked body').run m'.enter = r' at halike
  cases halike with
  | ok v ht =>
      rw [Watched.guarded_of_ok hr, Watched.guarded_of_ok hr']
      exact Or.inr ⟨.ok v ht.leave, rfl⟩
  | @error e e' t t' he ht =>
      cases hlimit : e.isLimit with
      | true =>
          -- An error that is akin to a limit is that limit.
          obtain ⟨l, rfl⟩ := EvalError.eq_limit_of_isLimit hlimit
          cases he
          rcases recovered_alike ht hr hr' with hs | ⟨halike, hrescue⟩
          · exact Or.inl hs
          · exact Or.inr ⟨halike, by rw [hrescue]⟩
      | false =>
          have hlimit' : e'.isLimit = false := (Akin.isLimit he).trans hlimit
          rw [Watched.guarded_of_error hr hlimit, Watched.guarded_of_error hr' hlimit',
            Watched.rescue_of_error hlimit, Watched.rescue_of_error hlimit']
          exact Or.inr ⟨.error he ht.leave, rfl⟩

section form

variable (intentions : List String) {operands operands' : Operands}
  {each each' : (Value → Watched .plain Value) → Watched .plain (List Value)} {g g' : Gesture}

theorem twinned_plain (hg : K.AkinGestures g g' ∨ K.OwnGestures g g')
    (hkeywords : operands'.keywords = operands.keywords)
    (hargs : K.Twinned (each Pure.pure) (each' Pure.pure)) :
    K.Twinned (each Pure.pure >>= fun args => Watched.call g args operands.keywords intentions)
      (each' Pure.pure >>= fun args => Watched.call g' args operands'.keywords intentions) := by
  rw [hkeywords]
  exact twinned_bind hargs fun args => twinned_call hg _ _ _

theorem twinned_special (hg : K.AkinGestures g g')
    (hkeywords : operands'.keywords = operands.keywords)
    (hargs : K.Twinned (each Pure.pure) (each' Pure.pure)) :
    K.Twinned
      (Watched.begin g >>= fun _ => each Pure.pure >>= fun args => Watched.look fun m =>
        Watched.execute g ⟨g.symbol, m.depth, args, operands.keywords, intentions⟩)
      (Watched.begin g' >>= fun _ => each' Pure.pure >>= fun args => Watched.look fun m =>
        Watched.execute g' ⟨g'.symbol, m.depth, args, operands'.keywords, intentions⟩) := by
  rw [hkeywords]
  exact twinned_called fun hs => twinned_bind hargs fun args =>
    twinned_perform (Or.inl hg) hs args _ _

theorem twinned_form {symbol symbol' : String}
    (hsymbol : K.heads symbol symbol') (hkeywords : operands'.keywords = operands.keywords)
    (hpositional : List.Forall₂ K.exprs operands.positional operands'.positional)
    (heach : ∀ use use', (∀ v, K.Twinned (use v) (use' v)) → K.Twinned (each use) (each' use')) :
    K.Twinned (Watched.form intentions symbol operands each)
      (Watched.form intentions symbol' operands' each') := by
  refine twinned_look fun m m' hm => ?_
  have hfound := hm.gestures symbol symbol' hsymbol
  have hargs : K.Twinned (each Pure.pure) (each' Pure.pure) := heach _ _ fun v => twinned_pure v
  generalize m.gestures.get? symbol = g?, m'.gestures.get? symbol' = g'? at hfound
  cases hfound with
  | none => exact twinned_callAlpha symbol intentions
  | @some _ g g' hg =>
      have hcall := twinned_plain intentions (Or.inl hg) hkeywords hargs
      have hspecial := twinned_special intentions hg hkeywords hargs
      simp only [hg.behavior, hg.behavior', hg.kind]
      cases g.kind with
      | alpha =>
          refine twinned_bind (twinned_begin g g') fun _ => twinned_look fun t t' _ => ?_
          -- Operands are counted as they are written, where they need not be the same.
          have hcalls : Call.Akin K.heads
              ⟨g.symbol, t.depth, operands.positional, operands.keywords, intentions⟩
              ⟨g'.symbol, t'.depth, operands'.positional, operands'.keywords, intentions⟩ :=
            ⟨hg.symbol, hpositional.length_eq.symm, hkeywords, rfl⟩
          refine twinned_bind (twinned_act _ _ (Call.parallel_requireOperands hcalls 1)) fun _ => ?_
          refine twinned_bind (heach _ _ fun v => ?_) fun names => twinned_pure _
          exact twinned_act _ _ (Call.parallel_collapse K.tacit hcalls v)
      | lambda => exact hcall
      | sigma => exact hcall
      | nabla => exact hcall
      | omega => exact hspecial
      | phi => exact hspecial
  | @own _ g g' hg =>
      have hsame : operands'.positional = operands.positional :=
        List.forall₂_eq_eq_eq ▸ hpositional.flip.imp fun _ _ h => hg.exprs h
      obtain ⟨act, hact, hact', _⟩ := hg.act
      simp only [hact, hact', hg.kind]
      split
      · rw [hsame, hkeywords]
        exact twinned_call (Or.inr hg) _ _ _
      · exact twinned_plain intentions (Or.inr hg) hkeywords hargs

end form

theorem twinned_reduce {intentions : List String} {v v' : Value} (h : K.exprs v v')
    (he : K.Twinned (Watched.evaluate intentions v) (Watched.evaluate intentions v')) :
    K.Twinned (Watched.reduce intentions v) (Watched.reduce intentions v') := by
  cases v with
  | list items =>
      obtain ⟨items', rfl⟩ : ∃ items', v' = .list items' := by
        by_cases hform : ∃ symbol operands, Value.list items = .list (.str symbol :: operands)
        · obtain ⟨symbol, operands, heq⟩ := hform
          obtain ⟨symbol', operands', rfl, _⟩ := K.form (heq ▸ h)
          exact ⟨_, rfl⟩
        · obtain ⟨items', rfl, _⟩ := K.malformed h fun s o heq => hform ⟨s, o, heq⟩
          exact ⟨items', rfl⟩
      exact he
  | _ =>
      obtain rfl := K.atom h rfl
      exact twinned_pure _

theorem twinned_each {intentions : List String} {args args' : List Value}
    (h : List.Forall₂ K.exprs args args')
    (ih : ∀ v ∈ args, ∀ {v'}, K.exprs v v' →
      K.Twinned (Watched.evaluate intentions v) (Watched.evaluate intentions v'))
    {use use' : Value → Watched .plain Value} (huse : ∀ v, K.Twinned (use v) (use' v)) :
    K.Twinned (args.mapM fun v => Watched.reduce intentions v >>= use)
      (args'.mapM fun v => Watched.reduce intentions v >>= use') := by
  induction h with
  | nil =>
      rw [List.mapM_nil, List.mapM_nil]
      exact twinned_pure []
  | @cons v v' rest rest' hv _ ihrest =>
      have hfirst := twinned_reduce hv (ih v List.mem_cons_self hv)
      have hrest := ihrest fun w hw => ih w (List.mem_cons_of_mem v hw)
      rw [List.mapM_cons, List.mapM_cons]
      exact twinned_bind (twinned_bind hfirst huse) fun r =>
        twinned_bind hrest fun rs => twinned_pure (r :: rs)

theorem twinned_evaluate (intentions : List String) {v v' : Value} (h : K.exprs v v') :
    K.Twinned (Watched.evaluate intentions v) (Watched.evaluate intentions v') := by
  induction v using Value.operand_induction generalizing v' with
  | form symbol operands ih =>
      obtain ⟨symbol', operands', rfl, hsymbol, hkeywords, hargs⟩ := K.form h
      rw [Watched.evaluate_form, Watched.evaluate_form]
      exact twinned_guarded (twinned_form intentions hsymbol hkeywords hargs
        fun use use' huse => twinned_each hargs ih huse)
  | other v hv =>
      rcases Watched.evaluate_other (X := .plain) intentions hv with ⟨items, rfl, he⟩ | ⟨ha, he⟩
      · obtain ⟨items', rfl, hv'⟩ := K.malformed h hv
        rcases Watched.evaluate_other (X := .plain) intentions hv' with ⟨_, _, he'⟩ | ⟨ha', _⟩
        · rw [he, he']
          exact twinned_guarded (twinned_fail (.malformed h))
        · cases ha'
      · obtain rfl := K.atom h ha
        rw [he]
        exact twinned_guarded (twinned_pure _)

end Comparison

structure Request where
  intentions : List String
  expr : Value

def Request.action (r : Request) : Action := .evaluate r.intentions r.expr

namespace Machine

abbrev run (requests : List Request) (m : Machine) : Machine :=
  perform (requests.map Request.action) m

abbrev trailOf (requests : List Request) (m : Machine) : List Moment :=
  moments (requests.map Request.action) m

def outcome : EStateM.Result EvalError Machine Value → Except EvalError Value
  | .ok v _ => .ok v
  | .error e _ => .error e

def outcomes : List Request → Machine → List (Except EvalError Value)
  | [], _ => []
  | r :: rest, m =>
      outcome (evaluate r.intentions r.expr m) ::
        outcomes rest (after (evaluate r.intentions r.expr m))

def settled : Except EvalError Value → Value
  | .ok v => v
  | .error e => .failed e.message

theorem evaluateAll_eq (intentions : List String) (exprs : List Value) (m : Machine) :
    evaluateAll intentions exprs m =
      ((outcomes (exprs.map (Request.mk intentions)) m).map settled,
        run (exprs.map (Request.mk intentions)) m) := by
  induction exprs generalizing m with
  | nil => rfl
  | cons expr rest ih =>
      simp only [evaluateAll, List.map_cons, outcomes, run, perform, Request.action, Action.apply]
      cases evaluate intentions expr m with
      | ok v t => simp only [ih t, after_ok, outcome, settled]
      | error e t => simp only [ih t, after_error, outcome, settled]

end Machine

namespace Comparison

open Machine

variable {K : Comparison}

def Requests (K : Comparison) : List Request → List Request → Prop :=
  List.Forall₂ fun r r' => r'.intentions = r.intentions ∧ K.exprs r.expr r'.expr

inductive Agree (K : Comparison) : Except EvalError Value → Except EvalError Value → Prop
  | ok (v : Value) : K.Agree (.ok v) (.ok v)
  | error {e e' : EvalError} (h : K.Akin e e') : K.Agree (.error e) (.error e')

theorem Agree.eq (hheads : ∀ {s s'}, K.heads s s' → s = s')
    (hexprs : ∀ {v v'}, K.exprs v v' → v = v') {r r' : Except EvalError Value}
    (h : K.Agree r r') : r = r' := by
  cases h with
  | ok v => rfl
  | error h =>
      cases h with
      | same e => rfl
      | malformed h => rw [hexprs h]
      | arity h => rw [hheads h]
      | unnamed h => rw [hheads h]

theorem agree_outcome {r r' : EStateM.Result EvalError Machine Value}
    (h : Alike K.Akin K.Twin r r') : K.Agree (outcome r) (outcome r') := by
  cases h with
  | ok v _ => exact .ok v
  | error he _ => exact .error he

theorem twin_evaluate (intentions : List String) {v v' : Value} (h : K.exprs v v')
    {m m' : Machine} (hm : K.Twin m m') :
    (∃ t ∈ (Watched.evaluate intentions v).trail m, K.spoils t.happening) ∨
      Alike K.Akin K.Twin (evaluate intentions v m) (evaluate intentions v' m') ∧
      limitsOf ((Watched.evaluate intentions v').trail m') =
        limitsOf ((Watched.evaluate intentions v).trail m) := by
  have hrun := twinned_evaluate intentions h m m' hm
  rw [Spoilt, Watched.run_evaluate, Watched.run_evaluate] at hrun
  rcases hrun with (ht | ⟨e, t, hfail, hs⟩) | halike
  · exact Or.inl ht
  · -- Limits spoil at most, and none leaves an evaluation.
    obtain ⟨l, rfl, _⟩ := K.spoils_failed hs
    cases isLimit_of_evaluate hfail
  · exact Or.inr halike

theorem twin_requests {rs rs' : List Request} (h : K.Requests rs rs') {m m' : Machine}
    (hm : K.Twin m m') :
    (∃ t ∈ trailOf rs m, K.spoils t.happening) ∨
      List.Forall₂ K.Agree (outcomes rs m) (outcomes rs' m') ∧ K.Twin (run rs m) (run rs' m') ∧
        limitsOf (trailOf rs' m') = limitsOf (trailOf rs m) := by
  induction h generalizing m m' with
  | nil => exact Or.inr ⟨.nil, hm, rfl⟩
  | @cons r r' rest rest' hr _ ih =>
      obtain ⟨_, expr⟩ := r
      obtain ⟨intentions, expr'⟩ := r'
      obtain ⟨rfl, hexpr⟩ := hr
      rcases twin_evaluate intentions hexpr hm with ⟨t, ht, hs⟩ | ⟨halike, hlimits⟩
      · exact Or.inl ⟨t, List.mem_append_left _ ht, hs⟩
      rcases ih halike.state with ⟨t, ht, hs⟩ | ⟨hagree, htwin, hmore⟩
      · exact Or.inl ⟨t, List.mem_append_right _ ht, hs⟩
      refine Or.inr ⟨.cons (agree_outcome halike) hagree, htwin, ?_⟩
      simp only [trailOf, List.map_cons, moments, limitsOf_append]
      exact congrArg₂ (· ++ ·) hlimits hmore

end Comparison

end GestureGraph
