import GestureGraph.Proofs.Comparison
import GestureGraph.Proofs.Lines
import GestureGraph.Proofs.Tiling

namespace GestureGraph

namespace Value

inductive Sound : Value → Prop
  | atom {v : Value} (ha : v.isAtom = true) (hv : v.isFailed = false) : Sound v
  | list {items : List Value} (h : ∀ v ∈ items, Sound v) : Sound (.list items)

theorem Sound.isFailed {v : Value} (h : v.Sound) : v.isFailed = false := by
  cases h with
  | atom _ hv => exact hv
  | list _ => rfl

theorem Sound.positional {symbol : String} {operands : List Value}
    (h : (Value.list (.str symbol :: operands)).Sound) :
    ∀ v ∈ (Operands.split operands).positional, v.Sound := by
  cases h with
  | atom ha _ => cases ha
  | list h =>
      exact fun v hv => h v (List.mem_cons_of_mem _ (Operands.mem_of_mem_positional hv))

theorem sound_str (s : String) : (Value.str s).Sound := .atom rfl rfl

theorem sound_of_readNumber? {text : List Char} {v : Value} (h : readNumber? text = some v) :
    v.Sound := by
  have hfloat : (Decimal.read? text).map Value.float = some v → v.Sound := by
    intro h
    obtain ⟨x, _, rfl⟩ := Option.map_eq_some_iff.mp h
    exact .atom rfl rfl
  rw [readNumber?] at h
  generalize Decimal.splitSign text = parts at h
  obtain ⟨negative, digits⟩ := parts
  dsimp only at h
  generalize (if negative = true then -(Decimal.natOf digits : Int) else Decimal.natOf digits) = i
    at h
  split at h
  · exact hfloat h
  split at h
  · cases h
    exact .atom rfl rfl
  · exact hfloat h

theorem isFailed_oneOrMany {vs : List Value} (h : ∀ v ∈ vs, v.isFailed = false) :
    (oneOrMany vs).isFailed = false := by
  match vs with
  | [] => rfl
  | [v] => exact h v List.mem_cons_self
  | _ :: _ :: _ => rfl

end Value

theorem Reads.sound {kind : TokenKind} {text : List Char} {value : Value}
    (h : Reads kind text value) : value.Sound := by
  cases h with
  | number _ _ _ hvalue => exact Value.sound_of_readNumber? hvalue
  | _ => exact Value.sound_str _

theorem Forest.sound_values (f : Forest) (h : ∀ t ∈ f.flatten, t.value.Sound) :
    ∀ v ∈ f.values, v.Sound := by
  induction f with
  | nil => exact fun v hv => absurd hv List.not_mem_nil
  | atom t ht rest ih =>
      obtain ⟨hfirst, hrest⟩ := List.forall_mem_cons.mp h
      exact List.forall_mem_cons.mpr ⟨hfirst, ih hrest⟩
  | group opening ho inner closing hc rest ihInner ihRest =>
      have hinner := ihInner fun t ht => h t (by simp [flatten, ht])
      have hrest := ihRest fun t ht => h t (by simp [flatten, ht])
      refine List.forall_mem_append.mpr ⟨fun v hv => ?_, hrest⟩
      cases hitems : inner.values with
      | nil =>
          rw [hitems] at hv
          cases hv
      | cons first items =>
          rw [hitems] at hv hinner
          rw [List.mem_singleton.mp hv]
          exact .list hinner

theorem Program.sound_of_read {axioms : Axioms} {origin source : String} {program : Program}
    (h : read axioms origin source = .ok program) : ∀ v ∈ program.expressions, v.Sound := by
  obtain ⟨_, tokens, hscan, _, hparse, rfl⟩ := read_eq_ok_iff.mp h
  obtain ⟨f, rfl, _, _, rfl⟩ := forest_of_parse hparse
  refine f.sound_values fun t ht => ?_
  obtain ⟨ps, hread, htokens⟩ := Token.read_of_scan hscan
  have htiles := (tiling_of_scan hread.scan_all 0).tiles byteSize_nil.symm rfl
  obtain ⟨text, _, hreads⟩ := (htiles.stands t (htokens ▸ ht)).reads
  exact hreads.sound

section gives

variable {ε σ α β : Type} {p : α → Prop} {q : β → Prop}

def Gives (p : α → Prop) (x : EStateM ε σ α) : Prop := ∀ s a s', x s = .ok a s' → p a

theorem gives_pure {a : α} (h : p a) : Gives p (pure a : EStateM ε σ α) := by
  intro s b s' hb
  cases hb
  exact h

theorem gives_any (x : EStateM ε σ α) : Gives (fun _ => True) x := fun _ _ _ _ => trivial

theorem gives_bind {x : EStateM ε σ α} {f : α → EStateM ε σ β} (hx : Gives p x)
    (hf : ∀ a, p a → Gives q (f a)) : Gives q (x >>= f) := by
  intro s b s' hb
  cases h : x s with
  | ok a t =>
      rw [bind_of_ok h] at hb
      exact hf a (hx s a t h) t b s' hb
  | error e t =>
      rw [bind_of_error h] at hb
      cases hb

theorem gives_then {x : EStateM ε σ α} {f : α → EStateM ε σ β} (hf : ∀ a, Gives q (f a)) :
    Gives q (x >>= f) := gives_bind (gives_any x) fun a _ => hf a

theorem gives_act {x : Change α} (h : Gives p x) : Gives p x.act := by
  intro c a c' ha
  simp only [Change.act] at ha
  cases hx : x c with
  | ok b t =>
      rw [hx] at ha
      cases ha
      exact h c a c' hx
  | error e t =>
      rw [hx] at ha
      cases ha

end gives

namespace Call

abbrev Unfailed (v : Value) : Prop := v.isFailed = false

theorem gives_collapse (call : Call) (v : Value) : Gives Unfailed (call.collapse v) :=
  gives_then fun _ => gives_then fun _ => gives_pure rfl

theorem gives_collapseAll (call : Call) (vs : List Value) :
    Gives (fun names => ∀ v ∈ names, Unfailed v) (call.collapseAll vs) := by
  induction vs with
  | nil => exact gives_pure fun v hv => absurd hv List.not_mem_nil
  | cons v rest ih =>
      exact gives_bind (call.gives_collapse v) fun _ hname => gives_bind ih fun _ hnames =>
        gives_pure (List.forall_mem_cons.mpr ⟨hname, hnames⟩)

theorem gives_chain (kind : String) (attrs : Attributes) (names : List String) :
    Gives (fun ids => ∀ v ∈ ids, Unfailed v) (chain kind attrs names) := by
  fun_induction chain kind attrs names with
  | case1 source target rest ih =>
      exact gives_then fun _ => gives_bind ih fun _ hids =>
        gives_pure (List.forall_mem_cons.mpr ⟨rfl, hids⟩)
  | case2 => exact gives_pure fun v hv => absurd hv List.not_mem_nil

theorem gives_giveBack (call : Call) (h : ∀ v ∈ call.args, Unfailed v) :
    Gives Unfailed call.giveBack := by
  have hlast : Unfailed (call.args.getLastD .nil) := by
    cases hargs : call.args.getLast? with
    | none =>
        rw [List.getLastD_eq_getLast?, hargs]
        rfl
    | some v =>
        rw [List.getLastD_eq_getLast?, hargs]
        exact h v (List.mem_of_getLast? hargs)
  rw [giveBack]
  split
  · exact gives_pure hlast
  · exact gives_then fun _ => gives_pure hlast

theorem gives_perform (call : Call) (op : Operator) (h : ∀ v ∈ call.args, Unfailed v) :
    Gives Unfailed (call.perform op) := by
  cases op with
  | alpha =>
      exact gives_then fun _ => gives_bind (call.gives_collapseAll _) fun _ hnames =>
        gives_pure (Value.isFailed_oneOrMany hnames)
  | lambda =>
      refine gives_then fun _ => gives_then fun _ => gives_then fun _ => ?_
      exact gives_bind (gives_act (gives_chain _ _ _)) fun _ hids =>
        gives_pure (Value.isFailed_oneOrMany hids)
  | sigma =>
      exact gives_then fun _ => gives_then fun _ => gives_then fun _ => gives_then fun _ =>
        gives_then fun _ => gives_pure rfl
  | nabla =>
      refine gives_then fun _ => gives_then fun names => ?_
      cases names with
      | nil => exact gives_pure rfl
      | cons target sources =>
          exact gives_then fun _ => gives_then fun _ => gives_then fun _ => gives_pure rfl
  | omega => exact call.gives_giveBack h
  | phi => exact gives_then fun _ => gives_then fun _ => gives_pure rfl

end Call

theorem Registry.behavior_alpha {r : Registry} (h : r.IsBuiltIn) : r.alpha.behavior = .builtIn := by
  rw [alpha]
  cases hg : r.get? Operator.alpha.glyph with
  | none => rfl
  | some g => exact h _ g hg

namespace Watched

open Call (Unfailed)

variable {α β : Type} {p : α → Prop} {q : β → Prop}

def Lands (p : α → Prop) : EStateM.Result EvalError Machine α → Prop
  | .ok a m => p a ∧ m.Plain
  | .error _ m => m.Plain

def Yields (p : α → Prop) (x : Watched .plain α) : Prop := ∀ m, m.Plain → Lands p (x.run m)

theorem yields_pure {a : α} (h : p a) : Yields p (pure a : Watched .plain α) := fun _ hm => ⟨h, hm⟩

theorem yields_fail (e : EvalError) : Yields p (fail e : Watched .plain α) := fun _ hm => hm

theorem yields_bind {x : Watched .plain α} {f : α → Watched .plain β} (hx : Yields p x)
    (hf : ∀ a, p a → Yields q (f a)) : Yields q (x >>= f) := by
  intro m hm
  have hland := hx m hm
  cases h : x.run m with
  | ok a t =>
      rw [h] at hland
      rw [run_bind_of_ok h]
      exact hf a hland.1 t hland.2
  | error e t =>
      rw [h] at hland
      rw [run_bind_of_error h]
      exact hland

theorem yields_look {f : Machine → Watched .plain α} (h : ∀ m, m.Plain → Yields p (f m)) :
    Yields p (look f) := fun m hm => h m hm m hm

theorem yields_begin (g : Gesture) : Yields (fun _ => True) (begin g) := fun _ hm =>
  ⟨trivial, Registry.isBuiltIn_count hm.gestures g.symbol, hm.recovery⟩

theorem yields_act (what : Move) {a : Act α} (h : Gives p a) : Yields p (act what a) := by
  intro m hm
  rw [run_act, Machine.onContext]
  cases ha : a m.context with
  | ok b c => exact ⟨h m.context b c ha, hm.gestures, hm.recovery⟩
  | error e c => exact ⟨hm.gestures, hm.recovery⟩

theorem yields_perform {g : Gesture} (hg : g.behavior = .builtIn) {args : List Value}
    (hargs : ∀ v ∈ args, Unfailed v) (keywords : Keywords) (intentions : List String) :
    Yields Unfailed (look fun m =>
      execute g ⟨g.symbol, m.depth, args, keywords, intentions⟩) := by
  refine yields_look fun _ _ => ?_
  rw [execute_eq_act]
  refine yields_act _ ?_
  rw [Gesture.perform, hg]
  exact Call.gives_perform _ _ hargs

theorem yields_call {g : Gesture} (hg : g.behavior = .builtIn) {args : List Value}
    (hargs : ∀ v ∈ args, Unfailed v) (keywords : Keywords) (intentions : List String) :
    Yields Unfailed (call g args keywords intentions) :=
  yields_bind (yields_begin g) fun _ _ => yields_perform hg hargs keywords intentions

theorem yields_callAlpha (name : String) (intentions : List String) :
    Yields Unfailed (callAlpha name intentions) := by
  refine yields_look fun m hm => yields_call (Registry.behavior_alpha hm.gestures) ?_ _ _
  exact fun v hv => List.mem_singleton.mp hv ▸ rfl

theorem yields_ceilings : Yields (fun _ => True) ⟨Machine.checkCeilings, fun _ => []⟩ := by
  intro m hm
  show Lands _ (Machine.checkCeilings m)
  rcases Machine.checkCeilings_cases m with ⟨h, _⟩ | ⟨e, h, _⟩ | ⟨e, h, _⟩
  · exact h ▸ ⟨trivial, hm⟩
  · exact h ▸ hm
  · exact h ▸ hm

theorem yields_guarded {intentions : List String} {body : Watched .plain Value}
    (h : Yields Unfailed body) : Yields Unfailed (guarded intentions body) := by
  intro m hm
  have hchecked : Yields Unfailed (checked body) := yields_bind yields_ceilings fun _ _ => h
  have hland := hchecked m.enter ⟨hm.gestures, hm.recovery⟩
  cases hr : (checked body).run m.enter with
  | ok v t =>
      rw [hr] at hland
      rw [guarded_of_ok hr]
      exact ⟨hland.1, hland.2.gestures, hland.2.recovery⟩
  | error e t =>
      rw [hr] at hland
      have hplain : t.Plain := hland
      cases hlimit : e.isLimit with
      | false =>
          rw [guarded_of_error hr hlimit]
          exact ⟨hplain.gestures, hplain.recovery⟩
      | true =>
          obtain ⟨l, rfl⟩ := EvalError.eq_limit_of_isLimit hlimit
          rw [guarded_of_limit hr, hplain.recovery]
          have hmarker := yields_callAlpha Machine.limitMarker [Machine.limitIntention] t hplain
          rw [recoverBy]
          cases hrun : (callAlpha Machine.limitMarker [Machine.limitIntention]).run t with
          | ok v t' =>
              rw [hrun] at hmarker
              exact ⟨hmarker.1, hmarker.2.gestures, hmarker.2.recovery⟩
          | error e t' =>
              rw [hrun] at hmarker
              have hplain : t'.Plain := hmarker
              exact ⟨rfl, hplain.gestures, hplain.recovery⟩

theorem yields_form {symbol : String} {intentions : List String} {operands : Operands}
    {each : (Value → Watched .plain Value) → Watched .plain (List Value)}
    (heach : ∀ use, (∀ v, Unfailed v → Yields Unfailed (use v)) →
      Yields (fun vs => ∀ v ∈ vs, Unfailed v) (each use)) :
    Yields Unfailed (form intentions symbol operands each) := by
  refine yields_look fun m hm => ?_
  cases hs : m.gestures.get? symbol with
  | none => exact yields_callAlpha symbol intentions
  | some g =>
      have hg : g.behavior = .builtIn := hm.gestures symbol g hs
      have hargs := heach Pure.pure fun v hv => yields_pure hv
      have hcall : Yields Unfailed (each Pure.pure >>= fun args =>
          call g args operands.keywords intentions) :=
        yields_bind hargs fun args hv => yields_call hg hv _ _
      have hspecial : Yields Unfailed (begin g >>= fun _ => each Pure.pure >>= fun args =>
          look fun m => execute g ⟨g.symbol, m.depth, args, operands.keywords, intentions⟩) :=
        yields_bind (yields_begin g) fun _ _ => yields_bind hargs fun args hv =>
          yields_perform hg hv _ _
      simp only [hg]
      cases g.kind with
      | alpha =>
          refine yields_bind (yields_begin g) fun _ _ => yields_look fun t _ => ?_
          refine yields_bind (yields_act _ (gives_any _)) fun _ _ => ?_
          refine yields_bind (heach _ fun v _ => yields_act _ (Call.gives_collapse _ v)) ?_
          exact fun names hnames => yields_pure (Value.isFailed_oneOrMany hnames)
      | lambda => exact hcall
      | sigma => exact hcall
      | nabla => exact hcall
      | omega => exact hspecial
      | phi => exact hspecial

theorem yields_reduce {intentions : List String} {v : Value} (hv : v.Sound)
    (h : Yields Unfailed (evaluate intentions v)) : Yields Unfailed (reduce intentions v) := by
  cases v with
  | list items => exact h
  | _ => exact yields_pure hv.isFailed

theorem yields_each {intentions : List String} {operands : List Value}
    (hsound : ∀ v ∈ (Operands.split operands).positional, v.Sound)
    (h : ∀ v ∈ (Operands.split operands).positional, v.Sound →
      Yields Unfailed (evaluate intentions v)) (use : Value → Watched .plain Value)
    (huse : ∀ v, Unfailed v → Yields Unfailed (use v)) :
    Yields (fun vs => ∀ v ∈ vs, Unfailed v) (each intentions operands use) := by
  rw [each]
  generalize (Operands.split operands).positional = args at h hsound
  induction args with
  | nil =>
      rw [List.mapM_nil]
      exact yields_pure fun v hv => absurd hv List.not_mem_nil
  | cons v rest ih =>
      obtain ⟨hv, hrest⟩ := List.forall_mem_cons.mp hsound
      have hfirst := yields_reduce hv (h v List.mem_cons_self hv)
      have hmore := ih (fun w hw => h w (List.mem_cons_of_mem v hw)) hrest
      rw [List.mapM_cons]
      exact yields_bind (yields_bind hfirst huse) fun r hr => yields_bind hmore fun rs hrs =>
        yields_pure (List.forall_mem_cons.mpr ⟨hr, hrs⟩)

theorem yields_evaluate (intentions : List String) {v : Value} (hv : v.Sound) :
    Yields Unfailed (evaluate intentions v) := by
  induction v using Value.operand_induction with
  | form symbol operands ih =>
      rw [evaluate_form]
      exact yields_guarded (yields_form (yields_each hv.positional ih))
  | other v hother =>
      rcases evaluate_other (X := .plain) intentions hother with ⟨items, rfl, he⟩ | ⟨ha, he⟩
      · rw [he]
        exact yields_guarded (yields_fail _)
      · rw [he]
        exact yields_guarded (yields_pure hv.isFailed)

end Watched

namespace Machine

theorem lands_evaluate {m : Machine} (hm : m.Plain) (intentions : List String) {v : Value}
    (hv : v.Sound) : Watched.Lands Call.Unfailed (evaluate intentions v m) := by
  rw [← Watched.run_evaluate]
  exact Watched.yields_evaluate intentions hv m hm

theorem isFailed_settled {requests : List Request} (h : ∀ r ∈ requests, r.expr.Sound) {m : Machine}
    (hm : m.Plain) :
    ∀ o ∈ outcomes requests m, (settled o).isFailed = !o.isOk := by
  induction requests generalizing m with
  | nil => exact fun o ho => absurd ho List.not_mem_nil
  | cons r rest ih =>
      obtain ⟨hr, hrest⟩ := List.forall_mem_cons.mp h
      have hland := lands_evaluate hm r.intentions hr
      rw [outcomes]
      cases he : evaluate r.intentions r.expr m with
      | ok v t =>
          rw [he] at hland
          exact List.forall_mem_cons.mpr ⟨hland.1, ih hrest hland.2⟩
      | error e t =>
          rw [he] at hland
          exact List.forall_mem_cons.mpr ⟨rfl, ih hrest hland⟩

theorem length_filter_settled {requests : List Request} (h : ∀ r ∈ requests, r.expr.Sound)
    {m : Machine} (hm : m.Plain) :
    (((outcomes requests m).map settled).filter fun v => !v.isFailed).length =
      (outcomes requests m).countP Except.isOk := by
  rw [← List.countP_eq_length_filter, List.countP_map]
  refine List.countP_congr fun o ho => ?_
  rw [Function.comp_apply, isFailed_settled h hm o ho, Bool.not_not]

end Machine

end GestureGraph
