import GestureGraph.Proofs.Demand
import GestureGraph.Proofs.Run

namespace GestureGraph

namespace Move

def Asks (what : Move) (e : LimitError) (m : Machine) : Prop :=
  ∃ d ∈ what.demands, d.run m.context = .error e m.context

/-- The move runs into the limit at this moment of the trail or at the one right before. -/
def Raises (what : Move) (e : LimitError) (trail : List Moment) (t : Moment) : Prop :=
  t.happening = .failed what (.limit e) ∨ [⟨.failed what (.limit e), t.machine⟩, t] <:+: trail

theorem Raises.mono {what : Move} {e : LimitError} {trail more : List Moment} {t : Moment}
    (h : what.Raises e trail t) (hmore : trail <:+: more) : what.Raises e more t :=
  h.imp_right fun hbefore => hbefore.trans hmore

end Move

def Moment.Accounted (trail : List Moment) (e : LimitError) (t : Moment) : Prop :=
  (∃ what : Move, what.Raises e trail t ∧ what.Asks e t.machine) ∨
    Machine.checkCeilings t.machine = .error (.limit e) t.machine

theorem Moment.Accounted.mono {trail more : List Moment} {e : LimitError} {t : Moment}
    (h : t.Accounted trail e) (hmore : trail <:+: more) : t.Accounted more e :=
  h.imp_left fun ⟨what, hraises, hasks⟩ => ⟨what, hraises.mono hmore, hasks⟩

def AllAccounted (trail : List Moment) : Prop :=
  ∀ t ∈ trail, ∀ e, t.happening.limit? = some e → t.Accounted trail e

theorem allAccounted_append {trail more : List Moment} (h : AllAccounted trail)
    (hmore : AllAccounted more) : AllAccounted (trail ++ more) := by
  intro t ht e he
  rcases List.mem_append.mp ht with ht | ht
  · exact (h t ht e he).mono (List.prefix_append _ _).isInfix
  · exact (hmore t ht e he).mono (List.suffix_append _ _).isInfix

namespace Watched

variable {α β : Type} {intentions : List String} {body : Watched .plain Value}

/-- A step between plain machines. It fails with a limit only at its last move or at the
ceilings. -/
structure Blamed (x : Watched .plain α) : Prop where
  plain : ∀ m, m.Plain → (after (x.run m)).Plain
  trail : ∀ m, m.Plain → AllAccounted (x.trail m)
  fails : ∀ m, m.Plain → ∀ e m', x.run m = .error (.limit e) m' →
    (∃ what : Move, [⟨.failed what (.limit e), m'⟩] <:+ x.trail m ∧ what.Asks e m') ∨
      Machine.checkCeilings m' = .error (.limit e) m'

theorem blamed_pure (a : α) : Blamed (pure a : Watched .plain α) where
  plain _ hm := hm
  trail _ _ _ h := by cases h
  fails _ _ _ _ h := by cases h

theorem blamed_malformed (text : String) :
    Blamed (fail (.malformed text) : Watched .plain α) where
  plain _ hm := hm
  trail _ _ _ h := by cases h
  fails _ _ _ _ h := by cases h

theorem blamed_bind {x : Watched .plain α} {f : α → Watched .plain β} (hx : Blamed x)
    (hf : ∀ a, Blamed (f a)) : Blamed (x >>= f) where
  plain m hm := by
    have hm' := hx.plain m hm
    cases h : x.run m with
    | error e m' =>
        rw [h] at hm'
        rwa [run_bind_of_error h]
    | ok a m' =>
        rw [h] at hm'
        rw [run_bind_of_ok h]
        exact (hf a).plain m' hm'
  trail m hm := by
    have hm' := hx.plain m hm
    cases h : x.run m with
    | error e m' =>
        rw [trail_bind_of_error h]
        exact hx.trail m hm
    | ok a m' =>
        rw [h] at hm'
        rw [trail_bind_of_ok h]
        exact allAccounted_append (hx.trail m hm) ((hf a).trail m' hm')
  fails m hm e m' h := by
    have ht := hx.plain m hm
    cases hr : x.run m with
    | error e' t =>
        rw [run_bind_of_error hr] at h
        cases h
        rw [trail_bind_of_error hr]
        exact hx.fails m hm e m' hr
    | ok a t =>
        rw [hr] at ht
        rw [run_bind_of_ok hr] at h
        rw [trail_bind_of_ok hr]
        exact ((hf a).fails t ht e m' h).imp_left fun ⟨what, hlast, hasks⟩ =>
          ⟨what, hlast.trans (List.suffix_append _ _), hasks⟩

theorem blamed_look {f : Machine → Watched .plain α} (h : ∀ m, m.Plain → Blamed (f m)) :
    Blamed (look f) where
  plain m hm := (h m hm).plain m hm
  trail m hm := (h m hm).trail m hm
  fails m hm := (h m hm).fails m hm

theorem blamed_begin (g : Gesture) : Blamed (begin g) where
  plain _ hm := ⟨Registry.isBuiltIn_count hm.gestures g.symbol, hm.recovery⟩
  trail _ _ t ht e he := by
    obtain rfl := List.mem_singleton.mp ht
    cases he
  fails _ _ _ _ h := by cases h

theorem asks_of_owes {what : Move} {a : Act α} (h : ∀ c, Owes what.demands a c) {m m' : Machine}
    {e : LimitError} (hrun : Machine.onContext a m = .error (.limit e) m') : what.Asks e m' := by
  simp only [Machine.onContext] at hrun
  cases hx : a m.context with
  | ok v c' =>
      rw [hx] at hrun
      cases hrun
  | error e' c' =>
      rw [hx] at hrun
      cases hrun
      exact h m.context e c' hx

theorem blamed_act (what : Move) {a : Act α} (h : ∀ c, Owes what.demands a c) :
    Blamed (act what a) where
  plain m hm := by
    rw [run_act, Machine.onContext]
    cases a m.context <;> exact ⟨hm.gestures, hm.recovery⟩
  trail m _ t ht e he := by
    obtain rfl := List.mem_singleton.mp ht
    cases hrun : Machine.onContext a m with
    | ok v m' =>
        rw [hrun] at he
        cases he
    | error e' m' =>
        rw [hrun] at he
        cases e' with
        | limit l =>
            cases he
            exact Or.inl ⟨what, Or.inl rfl, asks_of_owes h hrun⟩
        | _ => cases he
  fails m _ e m' hrun := by
    refine Or.inl ⟨what, ?_, asks_of_owes h hrun⟩
    show _ <:+ [_]
    have hrun : Machine.onContext a m = .error (.limit e) m' := hrun
    rw [hrun]
    exact List.suffix_refl _

theorem blamed_execute {g : Gesture} (hg : g.behavior = .builtIn) (call : Call) :
    Blamed (execute g call) := by
  rw [execute_eq_act]
  refine blamed_act _ fun c => ?_
  rw [Gesture.perform, hg]
  exact call.owes_perform g.kind c

theorem blamed_ceilings : Blamed ⟨Machine.checkCeilings, fun _ => []⟩ where
  plain m hm := by
    show (after (Machine.checkCeilings m)).Plain
    rwa [Machine.after_checkCeilings]
  trail _ _ _ h := by cases h
  fails m _ e m' h := by
    have h : Machine.checkCeilings m = .error (.limit e) m' := h
    have hafter := Machine.after_checkCeilings m
    rw [h] at hafter
    obtain rfl : m' = m := hafter
    exact Or.inr h

theorem blamed_checked (h : Blamed body) : Blamed (checked body) :=
  blamed_bind blamed_ceilings fun _ => h

theorem infix_of_neighbours {γ : Type} {a b : γ} (earlier later : List γ) :
    [a, b] <:+: earlier ++ [a] ++ ([b] ++ later) := ⟨earlier, later, by simp⟩

section levels

variable {m m' : Machine} {e : LimitError}

theorem checked_infix_guarded :
    (checked body).trail m.enter <:+: (guarded intentions body).trail m := by
  have heq : (guarded intentions body).trail m = [⟨.entered, m.enter⟩] ++
      ((checked body).trail m.enter ++ (rescue intentions ((checked body).run m.enter) ++
        [⟨.left, after (Machine.guarded intentions body.run m)⟩])) := by
    simp only [guarded, List.append_assoc, List.cons_append, List.nil_append]
  rw [heq]
  exact List.infix_append' _ _ _

theorem trail_guarded_of_limit (h : (checked body).run m.enter = .error (.limit e) m') :
    (guarded intentions body).trail m =
      ⟨.entered, m.enter⟩ :: (checked body).trail m.enter ++ ([⟨.limited e, m'⟩] ++
        ((recoverBy m'.recovery e intentions).trail m' ++
          [⟨.left, after (Machine.guarded intentions body.run m)⟩])) := by
  simp only [guarded, h, rescue, recover, List.append_assoc, List.cons_append, List.nil_append]

theorem recovery_infix_guarded (h : (checked body).run m.enter = .error (.limit e) m') :
    (recoverBy m'.recovery e intentions).trail m' <:+: (guarded intentions body).trail m := by
  rw [trail_guarded_of_limit h, ← List.append_assoc]
  exact List.infix_append' _ _ _

theorem limited_infix_guarded {last : Moment} (hlast : [last] <:+ (checked body).trail m.enter)
    (h : (checked body).run m.enter = .error (.limit e) m') :
    [last, ⟨.limited e, m'⟩] <:+: (guarded intentions body).trail m := by
  obtain ⟨earlier, hlast⟩ := hlast
  rw [trail_guarded_of_limit h, ← hlast]
  exact infix_of_neighbours (⟨.entered, m.enter⟩ :: earlier) _

end levels

theorem blamed_guarded
    (hr : ∀ (m : Machine) e, m.Plain → Blamed (recoverBy m.recovery e intentions))
    (h : Blamed body) : Blamed (guarded intentions body) where
  plain m hm := by
    have hm' := (blamed_checked h).plain m.enter ⟨hm.gestures, hm.recovery⟩
    rw [run_checked] at hm'
    show (after (Machine.guarded intentions body.run m)).Plain
    rcases Machine.guarded_cases intentions body.run m with
      ⟨v, t, hc, hg⟩ | ⟨e, t, v, hc, hg⟩ | ⟨e, t, hc, _, hg⟩
    · rw [hc] at hm'
      rw [hg]
      exact ⟨hm'.gestures, hm'.recovery⟩
    · rw [hc] at hm'
      have hrec := (hr t e hm').plain t hm'
      rw [run_recoverBy] at hrec
      rw [hg]
      exact ⟨hrec.gestures, hrec.recovery⟩
    · rw [hc] at hm'
      rw [hg]
      exact ⟨hm'.gestures, hm'.recovery⟩
  trail m hm t ht e he := by
    have henter : m.enter.Plain := ⟨hm.gestures, hm.recovery⟩
    have hc := blamed_checked h
    rcases mem_trail_guarded_iff.mp ht with rfl | ht | ht | rfl
    · cases he
    · exact (hc.trail m.enter henter t ht e he).mono checked_infix_guarded
    · obtain ⟨l, m', hb, ht⟩ := mem_rescue_iff.mp ht
      rcases ht with rfl | ht
      · obtain rfl : l = e := Option.some.inj he
        refine (hc.fails m.enter henter l m' hb).imp_left ?_
        rintro ⟨what, hlast, hasks⟩
        exact ⟨what, Or.inr (limited_infix_guarded hlast hb), hasks⟩
      · have hm' := hc.plain m.enter henter
        rw [hb] at hm'
        have hrec := (hr m' l hm').trail m' hm' t ht e he
        exact hrec.mono (recovery_infix_guarded hb)
    · cases he
  fails m _ e m' he := by
    have hl : EvalError.isLimit (.limit e) = false := Machine.guarded_isLimit he
    cases hl

theorem blamed_closed : Closed Machine.Plain (fun _ x => Blamed x) where
  require call least := blamed_act _ (call.owes_requireOperands least)
  collapse call v := blamed_act _ (call.owes_collapse v)
  execute hm hg call := by
    refine blamed_execute ?_ call
    rcases hg with ⟨symbol, hg⟩ | hg
    · exact hm.gestures symbol _ hg
    · exact hg
  respond hm hr := by cases hr.symm.trans hm.recovery
  pure := blamed_pure
  bind := blamed_bind
  malformed := blamed_malformed
  look := blamed_look
  begin := blamed_begin
  guarded := blamed_guarded

theorem blamed_settle {x : Watched .plain Value} (h : Blamed x) : Blamed (settle x) where
  plain m hm := by
    have hm' := h.plain m hm
    simp only [settle]
    cases hx : x.run m with
    | ok v m' =>
        rw [hx] at hm'
        exact hm'
    | error e m' =>
        rw [hx] at hm'
        exact hm'
  trail := h.trail
  fails m _ e m' hf := by
    simp only [settle] at hf
    cases hx : x.run m with
    | ok v t =>
        rw [hx] at hf
        cases hf
    | error e' t =>
        rw [hx] at hf
        cases hf

theorem blamed_evaluateAll (intentions : List String) (exprs : List Value) :
    Blamed (evaluateAll intentions exprs) := by
  induction exprs with
  | nil => exact blamed_pure []
  | cons expr rest ih =>
      exact blamed_bind (blamed_settle (blamed_closed.evaluate intentions expr)) fun v =>
        blamed_bind ih fun vs => blamed_pure _

end Watched

namespace Action

def BuiltIn : Action → Prop
  | .register g => g.behavior = .builtIn
  | .recoverBy recovery => recovery = .marker
  | _ => True

variable {m : Machine}

theorem plain_runProgram (hm : m.Plain) (program : Program) (options : CycleOptions) :
    (m.runProgram program options).2.Plain := by
  have hblamed := Watched.blamed_evaluateAll program.intentions program.expressions
  have hrun := hblamed.plain (m.prepare options) ⟨hm.gestures, hm.recovery⟩
  rw [Watched.run_evaluateAll] at hrun
  exact ⟨hrun.gestures, hrun.recovery⟩

theorem plain_apply (hm : m.Plain) {a : Action} (ha : a.BuiltIn) : (a.apply m).Plain := by
  cases a with
  | mutate μ =>
      rw [after_mutate]
      exact ⟨hm.gestures, hm.recovery⟩
  | evaluate intentions expr =>
      have hrun := (Watched.blamed_closed.evaluate intentions expr).plain m hm
      rw [Watched.run_evaluate] at hrun
      exact hrun
  | runProgram program options => exact plain_runProgram hm program options
  | runSource source options =>
      simp only [apply, Machine.runSource]
      cases Program.read m.context.axioms "<input>" source with
      | error e => exact hm
      | ok program => exact plain_runProgram hm program options
  | register g => exact ⟨Registry.isBuiltIn_register hm.gestures ha, hm.recovery⟩
  | clearGestures => exact ⟨(fun _ _ hg => by cases hg), hm.recovery⟩
  | recoverBy recovery => exact ⟨hm.gestures, ha⟩

theorem allAccounted_programTrail (hm : m.Plain) (program : Program) (options : CycleOptions) :
    AllAccounted (programTrail program options m) :=
  (Watched.blamed_evaluateAll program.intentions program.expressions).trail (m.prepare options)
    ⟨hm.gestures, hm.recovery⟩

theorem allAccounted_nil : AllAccounted [] := fun _ ht => by cases ht

theorem allAccounted_trail (hm : m.Plain) (a : Action) : AllAccounted (a.trail m) := by
  cases a with
  | mutate μ => exact (Watched.blamed_act (.mutate μ) μ.owes_run).trail m hm
  | evaluate intentions expr => exact (Watched.blamed_closed.evaluate intentions expr).trail m hm
  | runProgram program options => exact allAccounted_programTrail hm program options
  | runSource source options =>
      simp only [trail]
      cases Program.read m.context.axioms "<input>" source with
      | error e => exact allAccounted_nil
      | ok program => exact allAccounted_programTrail hm program options
  | _ => exact allAccounted_nil

end Action

namespace Machine

theorem allAccounted_moments {actions : List Action} (ha : ∀ a ∈ actions, a.BuiltIn) {m : Machine}
    (hm : m.Plain) : AllAccounted (moments actions m) := by
  induction actions generalizing m with
  | nil => exact Action.allAccounted_nil
  | cons a rest ih =>
      obtain ⟨hfirst, hrest⟩ := List.forall_mem_cons.mp ha
      exact allAccounted_append (a.allAccounted_trail hm) (ih hrest (Action.plain_apply hm hfirst))

end Machine

end GestureGraph
