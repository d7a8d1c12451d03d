import GestureGraph.Proofs.Move
import GestureGraph.Proofs.Operands

/-!
Evaluation under watch: the same evaluation, which also leaves a trail of the moments it goes
through. Whatever every part of an evaluation keeps to, the whole of it keeps to.
-/

namespace GestureGraph

section outcomes

variable {ε σ α β : Type}

def after : EStateM.Result ε σ α → σ
  | .ok _ s => s
  | .error _ s => s

@[simp] theorem after_ok (a : α) (s : σ) : after (.ok a s : EStateM.Result ε σ α) = s := rfl

@[simp] theorem after_error (e : ε) (s : σ) : after (.error e s : EStateM.Result ε σ α) = s := rfl

theorem bind_of_ok {x : EStateM ε σ α} {s s' : σ} {a : α} (h : x s = .ok a s')
    (f : α → EStateM ε σ β) : (x >>= f) s = f a s' := by
  show EStateM.bind x f s = _
  simp only [EStateM.bind, h]

theorem bind_of_error {x : EStateM ε σ α} {s s' : σ} {e : ε} (h : x s = .error e s')
    (f : α → EStateM ε σ β) : (x >>= f) s = .error e s' := by
  show EStateM.bind x f s = _
  simp only [EStateM.bind, h]

theorem ok_of_bind {x : EStateM ε σ α} {f : α → EStateM ε σ β} {s t : σ} {b : β}
    (h : (x >>= f) s = .ok b t) : ∃ a u, x s = .ok a u ∧ f a u = .ok b t := by
  cases hx : x s with
  | ok a u => exact ⟨a, u, rfl, (bind_of_ok hx f).symm.trans h⟩
  | error e u =>
      rw [bind_of_error hx] at h
      cases h

theorem ok_of_discard {x : EStateM ε σ α} {s t : σ} (h : discard x s = .ok () t) :
    ∃ a, x s = .ok a t := by
  obtain ⟨a, u, hx, hu⟩ := ok_of_bind (x := x) (f := fun _ => pure ()) h
  cases hu
  exact ⟨a, hx⟩

theorem error_of_discard {x : EStateM ε σ α} {s t : σ} {e : ε} (h : discard x s = .error e t) :
    x s = .error e t := by
  cases hx : x s with
  | ok a u =>
      have hok : discard x s = .ok () u := bind_of_ok hx _
      rw [hok] at h
      cases h
  | error e' u =>
      have herr : discard x s = .error e' u := bind_of_error hx _
      rw [herr] at h
      cases h
      rfl

end outcomes

inductive Happening (X : Extension := .plain) where
  | entered
  | called (g : Gesture X)
  | amid (what : Move X)
  | acted (what : Move X)
  | failed (what : Move X) (e : EvalError)
  | limited (e : LimitError)
  | left

namespace Happening

variable {X : Extension}

def ofResult {σ α : Type} (what : Move X) : EStateM.Result EvalError σ α → Happening X
  | .ok _ _ => .acted what
  | .error e _ => .failed what e

def limit? : Happening X → Option LimitError
  | .failed _ (.limit e) => some e
  | .limited e => some e
  | _ => none

end Happening

structure Moment (X : Extension := .plain) where
  happening : Happening X
  machine : Machine X

class Passage (X : Extension) where
  performing : X.Gesture → Call → Machine X → List (Machine X)
  recovering : X.Recovery → LimitError → List String → Machine X → List (Machine X)

instance : Passage .plain where
  performing _ _ _ := []
  recovering _ _ _ _ := []

@[ext] structure Watched (X : Extension) (α : Type) where
  run : Step X α
  trail : Machine X → List (Moment X)

namespace Watched

variable {X : Extension} {α β γ : Type}

protected def pure (a : α) : Watched X α := ⟨Pure.pure a, fun _ => []⟩

protected def bind (x : Watched X α) (f : α → Watched X β) : Watched X β where
  run := x.run >>= fun a => (f a).run
  trail m := x.trail m ++
    match x.run m with
    | .ok a m' => (f a).trail m'
    | .error _ _ => []

instance : Monad (Watched X) where
  pure := Watched.pure
  bind := Watched.bind

def fail (e : EvalError) : Watched X α := ⟨throw e, fun _ => []⟩

def look (f : Machine X → Watched X α) : Watched X α where
  run := get >>= fun m => (f m).run
  trail m := (f m).trail m

def begin (g : Gesture X) : Watched X Unit := ⟨Machine.count g.symbol, fun m => [⟨.called g, m⟩]⟩

def move (what : Move X) (x : Step X α) (through : Machine X → List (Machine X)) :
    Watched X α where
  run := x
  trail m := (through m).map (⟨.amid what, ·⟩) ++ [⟨.ofResult what (x m), after (x m)⟩]

def act (what : Move X) (a : Act α) : Watched X α := move what (Machine.onContext a) fun _ => []

def require (call : Call) (least : Nat) : Watched X Unit :=
  act (.require call least) (call.requireOperands least)

def collapse (call : Call) (v : Value) : Watched X Value :=
  act (.collapse call v) (call.collapse v)

def checked (body : Watched X Value) : Watched X Value := do
  ⟨Machine.checkCeilings, fun _ => []⟩
  body

theorem run_pure (a : α) : (pure a : Watched X α).run = pure a := rfl

theorem run_bind (x : Watched X α) (f : α → Watched X β) :
    (x >>= f).run = x.run >>= fun a => (f a).run := rfl

theorem run_bind_of_ok {x : Watched X α} {m m' : Machine X} {a : α} (h : x.run m = .ok a m')
    (f : α → Watched X β) : (x >>= f).run m = (f a).run m' := bind_of_ok h _

theorem run_bind_of_error {x : Watched X α} {m m' : Machine X} {e : EvalError}
    (h : x.run m = .error e m') (f : α → Watched X β) : (x >>= f).run m = .error e m' :=
  bind_of_error h _

theorem trail_bind_of_ok {x : Watched X α} {m m' : Machine X} {a : α} (h : x.run m = .ok a m')
    (f : α → Watched X β) : (x >>= f).trail m = x.trail m ++ (f a).trail m' := by
  show (Watched.bind x f).trail m = _
  simp only [Watched.bind, h]

theorem trail_bind_of_error {x : Watched X α} {m m' : Machine X} {e : EvalError}
    (h : x.run m = .error e m') (f : α → Watched X β) : (x >>= f).trail m = x.trail m := by
  show (Watched.bind x f).trail m = _
  simp only [Watched.bind, h, List.append_nil]

theorem bind_pure_right (x : Watched X α) : x >>= pure = x := by
  apply Watched.ext
  · exact bind_pure x.run
  · funext m
    cases hx : x.run m with
    | ok a m' => exact (trail_bind_of_ok hx _).trans (List.append_nil _)
    | error e m' => exact trail_bind_of_error hx _

theorem bind_bind (x : Watched X α) (f : α → Watched X β) (g : β → Watched X γ) :
    x >>= f >>= g = x >>= fun a => f a >>= g := by
  apply Watched.ext
  · exact bind_assoc x.run _ _
  · funext m
    cases hx : x.run m with
    | error e m' =>
        rw [trail_bind_of_error (run_bind_of_error hx f), trail_bind_of_error hx,
          trail_bind_of_error hx]
    | ok a m' =>
        rw [trail_bind_of_ok hx]
        have hxf : (x >>= f).run m = (f a).run m' := run_bind_of_ok hx f
        cases hf : (f a).run m' with
        | error e m'' =>
            rw [trail_bind_of_error (hxf.trans hf), trail_bind_of_ok hx, trail_bind_of_error hf]
        | ok b m'' =>
            rw [trail_bind_of_ok (hxf.trans hf), trail_bind_of_ok hx, trail_bind_of_ok hf,
              List.append_assoc]

instance : LawfulMonad (Watched X) :=
  .mk' (Watched X) bind_pure_right (fun _ _ => rfl) bind_bind

theorem run_map (f : α → β) (x : Watched X α) : (f <$> x).run = f <$> x.run := by
  rw [map_eq_pure_bind, map_eq_pure_bind]
  rfl

theorem run_checked (body : Watched X Value) :
    (checked body).run = (Machine.checkCeilings *> body.run) := by
  rw [seqRight_eq_bind]
  rfl

theorem run_look (f : Machine X → Watched X α) :
    (look f).run = (get >>= fun m => (f m).run) := rfl

theorem run_begin (g : Gesture X) : (begin g).run = Machine.count g.symbol := rfl

theorem run_act (what : Move X) (a : Act α) : (act what a).run = Machine.onContext a := rfl

theorem run_require (call : Call) (least : Nat) :
    (require call least : Watched X Unit).run =
      Machine.onContext (call.requireOperands least) := rfl

theorem run_collapse (call : Call) (v : Value) :
    (collapse call v : Watched X Value).run = Machine.onContext (call.collapse v) := rfl

variable [Semantics X] [Passage X]

def execute (g : Gesture X) (call : Call) : Watched X Value :=
  move (.execute g call) (Machine.execute g call)
    (match g.behavior with
      | .builtIn => fun _ => []
      | .custom code => Passage.performing code call)

def respond (code : X.Recovery) (e : LimitError) (intentions : List String) : Watched X Value :=
  move (.recover code e intentions) (Semantics.recover code e intentions)
    (Passage.recovering code e intentions)

def call (g : Gesture X) (args : List Value) (keywords : Keywords) (intentions : List String) :
    Watched X Value := do
  begin g
  look fun m => execute g ⟨g.symbol, m.depth, args, keywords, intentions⟩

def callAlpha (name : String) (intentions : List String) : Watched X Value :=
  look fun m => call m.gestures.alpha [.str name] {} intentions

def recoverBy (recovery : Recovery X) (e : LimitError) (intentions : List String) :
    Watched X Value :=
  match recovery with
  | .marker => callAlpha Machine.limitMarker [Machine.limitIntention]
  | .custom code => respond code e intentions

def recover (e : LimitError) (intentions : List String) : Watched X Value where
  run := Machine.recover e intentions
  trail m := ⟨.limited e, m⟩ :: (recoverBy m.recovery e intentions).trail m

def rescue (intentions : List String) : EStateM.Result EvalError (Machine X) Value → List (Moment X)
  | .error (.limit e) m => (recover e intentions).trail m
  | _ => []

def guarded (intentions : List String) (body : Watched X Value) : Watched X Value where
  run := Machine.guarded intentions body.run
  trail m := ⟨.entered, m.enter⟩ :: (checked body).trail m.enter ++
    rescue intentions ((checked body).run m.enter) ++
    [⟨.left, after (Machine.guarded intentions body.run m)⟩]

def form (intentions : List String) (symbol : String) (operands : Operands)
    (each : (Value → Watched X Value) → Watched X (List Value)) : Watched X Value :=
  look fun m =>
    match m.gestures.get? symbol with
    | none => callAlpha symbol intentions
    | some g =>
        if g.kind.isSpecial then
          match g.behavior, g.kind with
          | .custom _, _ => call g operands.positional operands.keywords intentions
          | .builtIn, .alpha => do
              begin g
              look fun m => do
                let call : Call :=
                  ⟨g.symbol, m.depth, operands.positional, operands.keywords, intentions⟩
                require call 1
                let names ← each fun v => collapse call v
                return .oneOrMany names
          | .builtIn, _ => do
              begin g
              let args ← each pure
              look fun m => execute g ⟨g.symbol, m.depth, args, operands.keywords, intentions⟩
        else do
          let args ← each pure
          call g args operands.keywords intentions

mutual

def evaluate (intentions : List String) : Value → Watched X Value
  | .list (.str symbol :: operands) =>
      guarded intentions
        (form intentions symbol (Operands.split operands) fun use =>
          (reductions intentions operands).mapM fun x => x >>= use)
  | .list items => guarded intentions (fail (.malformed (Value.list items).display))
  | v => guarded intentions (pure v)

def reductions (intentions : List String) : List Value → List (Watched X Value)
  | [] => []
  | [v] =>
      if v.isKeyword then []
      else [match v with
        | .list items => evaluate intentions (.list items)
        | v => pure v]
  | v :: w :: rest =>
      if v.isKeyword then reductions intentions rest
      else
        (match v with
          | .list items => evaluate intentions (.list items)
          | v => pure v) :: reductions intentions (w :: rest)

end

def reduce (intentions : List String) : Value → Watched X Value
  | .list items => evaluate intentions (.list items)
  | v => pure v

theorem reductions_eq_map (intentions : List String) (operands : List Value) :
    reductions intentions operands =
      (Operands.split operands).positional.map (reduce (X := X) intentions) := by
  fun_induction Operands.split operands with
  | case1 => simp [reductions]
  | case2 v key hk =>
      have hv : v.isKeyword = true := by simp [Value.isKeyword, hk]
      cases v <;> simp [reductions, hv]
  | case3 v hk =>
      have hv : v.isKeyword = false := by simp [Value.isKeyword, hk]
      cases v <;> simp [reductions, hv, reduce]
  | case4 v w rest key hk ops ih =>
      have hv : v.isKeyword = true := by simp [Value.isKeyword, hk]
      cases v <;> simpa [reductions, hv] using ih
  | case5 v w rest hk ops ih =>
      have hv : v.isKeyword = false := by simp [Value.isKeyword, hk]
      cases v <;> simp [reductions, hv, ih, reduce, ops]

def each (intentions : List String) (operands : List Value) (use : Value → Watched X Value) :
    Watched X (List Value) :=
  (Operands.split operands).positional.mapM fun v => reduce intentions v >>= use

theorem evaluate_form (intentions : List String) (symbol : String) (operands : List Value) :
    (evaluate intentions (.list (.str symbol :: operands)) : Watched X Value) =
      guarded intentions
        (form intentions symbol (Operands.split operands) (each intentions operands)) := by
  rw [evaluate, reductions_eq_map]
  simp only [List.mapM_map]
  rfl

theorem evaluate_other (intentions : List String) {v : Value}
    (h : ∀ symbol operands, v ≠ .list (.str symbol :: operands)) :
    (∃ items, v = .list items ∧ (evaluate intentions v : Watched X Value) =
      guarded intentions (fail (.malformed v.display))) ∨
    v.isAtom = true ∧
      (evaluate intentions v : Watched X Value) = guarded intentions (pure v) := by
  cases v with
  | list items =>
      cases items with
      | nil => exact Or.inl ⟨[], rfl, rfl⟩
      | cons head rest =>
          cases head with
          | str symbol => exact absurd rfl (h symbol rest)
          | _ => exact Or.inl ⟨_, rfl, rfl⟩
  | _ => exact Or.inr ⟨rfl, rfl⟩

theorem run_call (g : Gesture X) (args : List Value) (keywords : Keywords)
    (intentions : List String) :
    (call g args keywords intentions).run = Machine.call g args keywords intentions := rfl

theorem run_callAlpha (name : String) (intentions : List String) :
    (callAlpha name intentions : Watched X Value).run = Machine.callAlpha name intentions := rfl

theorem run_execute (g : Gesture X) (call : Call) :
    (execute g call).run = Machine.execute g call := rfl

theorem run_reduce {intentions : List String} {v : Value}
    (h : (evaluate intentions v : Watched X Value).run = Machine.evaluate intentions v) :
    (reduce intentions v : Watched X Value).run = Machine.reduce intentions v := by
  cases v with
  | list items => exact h
  | _ => rfl

theorem run_each {intentions : List String} {operands : List Value}
    (h : ∀ v ∈ (Operands.split operands).positional,
      (evaluate intentions v : Watched X Value).run = Machine.evaluate intentions v)
    (use : Value → Watched X Value) :
    (each intentions operands use).run =
      Machine.visit intentions (fun v => (use v).run) operands := by
  rw [Machine.visit_eq_mapM, each]
  generalize (Operands.split operands).positional = args at h
  induction args with
  | nil => rw [List.mapM_nil, List.mapM_nil, run_pure]
  | cons v rest ih =>
      have hv := run_reduce (h v List.mem_cons_self)
      have hrest := ih fun w hw => h w (List.mem_cons_of_mem v hw)
      simp only [List.mapM_cons, run_bind, run_pure, hv, hrest]

theorem run_form {intentions : List String} {operands : List Value} (symbol : String)
    (h : ∀ use : Value → Watched X Value, (each intentions operands use).run =
      Machine.visit intentions (fun v => (use v).run) operands) :
    Machine.guarded intentions
        (form intentions symbol (Operands.split operands) (each intentions operands)).run =
      (Machine.evaluate intentions (.list (.str symbol :: operands)) : Step X Value) := by
  rw [Machine.evaluate, form, run_look]
  congr 2
  funext m
  cases m.gestures.get? symbol with
  | none => exact run_callAlpha symbol intentions
  | some g =>
      obtain ⟨s, kind, behavior, calls⟩ := g
      cases kind <;> cases behavior <;>
        simp [Operator.isSpecial, run_bind, run_look, run_begin, run_require, run_collapse,
          run_execute, run_map, run_pure, run_call, h]

theorem run_evaluate (intentions : List String) (v : Value) :
    (evaluate intentions v : Watched X Value).run = Machine.evaluate intentions v := by
  induction v using Value.operand_induction with
  | form symbol operands ih =>
      rw [evaluate_form]
      exact run_form symbol (run_each ih)
  | other v hv =>
      rcases evaluate_other (X := X) intentions hv with ⟨items, rfl, h⟩ | ⟨ha, h⟩
      · rw [h, Machine.evaluate_list hv]
        rfl
      · rw [h, Machine.evaluate_atom ha]
        rfl

end Watched

namespace Watched

variable {X : Extension} [Semantics X] [Passage X]

/-- A property of watched steps that the parts of an evaluation have on some machines and that
composition keeps. -/
structure Closed (Sound : Machine X → Prop) (Q : ∀ ⦃α : Type⦄, Watched X α → Prop) : Prop where
  require : ∀ (call : Call) least, Q (require call least)
  collapse : ∀ (call : Call) v, Q (collapse call v)
  execute : ∀ {m : Machine X} {g : Gesture X}, Sound m →
    (∃ symbol, m.gestures.get? symbol = some g) ∨ g.behavior = .builtIn →
      ∀ call, Q (execute g call)
  respond : ∀ {m : Machine X} {code : X.Recovery}, Sound m → m.recovery = .custom code →
    ∀ e intentions, Q (respond code e intentions)
  pure : ∀ {α : Type} (a : α), Q (pure a)
  bind : ∀ {α β : Type} {x : Watched X α} {f : α → Watched X β},
    Q x → (∀ a, Q (f a)) → Q (x >>= f)
  malformed : ∀ text, Q (fail (.malformed text) : Watched X Value)
  look : ∀ {α : Type} {f : Machine X → Watched X α}, (∀ m, Sound m → Q (f m)) → Q (look f)
  begin : ∀ g, Q (begin g)
  guarded : ∀ {intentions : List String} {body : Watched X Value},
    (∀ (m : Machine X) e, Sound m → Q (recoverBy m.recovery e intentions)) → Q body →
      Q (guarded intentions body)

namespace Closed

variable {Sound : Machine X → Prop} {Q : ∀ ⦃α : Type⦄, Watched X α → Prop}

theorem call (h : Closed Sound Q) {g : Gesture X} (hg : ∀ call, Q (Watched.execute g call))
    (args : List Value) (keywords : Keywords) (intentions : List String) :
    Q (Watched.call g args keywords intentions) :=
  h.bind (h.begin g) fun _ => h.look fun _ _ => hg _

theorem alpha (h : Closed Sound Q) {m : Machine X} (hm : Sound m) (call : Call) :
    Q (Watched.execute m.gestures.alpha call) := by
  refine h.execute hm ?_ call
  rw [Registry.alpha]
  cases hg : m.gestures.get? Operator.alpha.glyph with
  | none => exact Or.inr rfl
  | some g => exact Or.inl ⟨_, hg⟩

theorem callAlpha (h : Closed Sound Q) (name : String) (intentions : List String) :
    Q (Watched.callAlpha name intentions) :=
  h.look fun _ hm => h.call (h.alpha hm) _ _ _

theorem recoverBy (h : Closed Sound Q) (intentions : List String) (m : Machine X) (e : LimitError)
    (hm : Sound m) : Q (Watched.recoverBy m.recovery e intentions) := by
  cases hr : m.recovery with
  | marker => exact h.callAlpha _ _
  | custom code => exact h.respond hm hr e intentions

theorem form (h : Closed Sound Q) (intentions : List String) (symbol : String)
    (operands : Operands) {each : (Value → Watched X Value) → Watched X (List Value)}
    (heach : ∀ use, (∀ v, Q (use v)) → Q (each use)) :
    Q (Watched.form intentions symbol operands each) := by
  apply h.look
  intro m hm
  cases hs : m.gestures.get? symbol with
  | none => exact h.callAlpha symbol intentions
  | some g =>
      have hg (call : Call) : Q (Watched.execute g call) := h.execute hm (Or.inl ⟨symbol, hs⟩) call
      have hargs : Q (each Pure.pure) := heach _ fun v => h.pure v
      dsimp only
      split
      · split
        · exact h.call hg _ _ _
        · refine h.bind (h.begin g) fun _ => h.look fun m _ => ?_
          refine h.bind (h.require _ _) fun _ => ?_
          exact h.bind (heach _ fun v => h.collapse _ v) fun names => h.pure _
        · refine h.bind (h.begin g) fun _ => h.bind hargs fun args => ?_
          exact h.look fun m _ => hg _
      · exact h.bind hargs fun args => h.call hg _ _ _

theorem each (h : Closed Sound Q) {intentions : List String} {operands : List Value}
    (hargs : ∀ v ∈ (Operands.split operands).positional, Q (Watched.evaluate intentions v))
    (use : Value → Watched X Value) (huse : ∀ v, Q (use v)) :
    Q (Watched.each intentions operands use) := by
  rw [Watched.each]
  generalize (Operands.split operands).positional = args at hargs
  induction args with
  | nil =>
      rw [List.mapM_nil]
      exact h.pure []
  | cons v rest ih =>
      have hv : Q (reduce intentions v) := by
        cases v with
        | list items => exact hargs _ List.mem_cons_self
        | _ => exact h.pure _
      have hrest := ih fun w hw => hargs w (List.mem_cons_of_mem v hw)
      rw [List.mapM_cons]
      exact h.bind (h.bind hv huse) fun r => h.bind hrest fun rs => h.pure (r :: rs)

theorem evaluate (h : Closed Sound Q) (intentions : List String) (v : Value) :
    Q (Watched.evaluate intentions v) := by
  induction v using Value.operand_induction with
  | form symbol operands ih =>
      rw [evaluate_form]
      exact h.guarded (h.recoverBy intentions) (h.form intentions symbol _ (h.each ih))
  | other v hv =>
      rcases evaluate_other (X := X) intentions hv with ⟨items, rfl, he⟩ | ⟨ha, he⟩
      · rw [he]
        exact h.guarded (h.recoverBy intentions) (h.malformed _)
      · rw [he]
        exact h.guarded (h.recoverBy intentions) (h.pure v)

end Closed

end Watched

structure Machine.Confined (Fine : ∀ ⦃α : Type⦄, Act α → Prop) (m : Machine) : Prop where
  gestures : ∀ symbol g, m.gestures.get? symbol = some g → ∀ call, Fine (g.perform call)
  recovery : ∀ f, m.recovery = .custom f → ∀ e intentions, Fine (f e intentions)

theorem Machine.execute_eq_onContext (g : Gesture) (call : Call) :
    execute g call = onContext (g.perform call) := by
  simp only [execute, Gesture.perform]
  cases g.behavior <;> rfl

theorem Watched.execute_eq_act (g : Gesture) (call : Call) :
    execute g call = act (.execute g call) (g.perform call) := by
  rw [execute, act, Machine.execute_eq_onContext]
  cases g.behavior <;> rfl

end GestureGraph
