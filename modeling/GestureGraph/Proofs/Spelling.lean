import GestureGraph.Proofs.Comparison
import GestureGraph.Proofs.Essence

namespace GestureGraph

def Operator.spellings (op : Operator) : List String := [op.glyph, op.latin]

def SameHead (symbol symbol' : String) : Prop :=
  symbol = symbol' ∨ ∃ op : Operator, symbol ∈ op.spellings ∧ symbol' ∈ op.spellings

namespace Value

mutual

inductive Respelled : Value → Value → Prop
  | same (v : Value) : Respelled v v
  | form {symbol symbol' : String} {operands operands' : List Value}
      (h : SameHead symbol symbol') (hs : RespelledAll operands operands') :
      Respelled (.list (.str symbol :: operands)) (.list (.str symbol' :: operands'))
  /-- A list that is no form; nothing in it is evaluated. -/
  | malformed {head head' : Value} {items items' : List Value} (hhead : ∀ s, head ≠ .str s)
      (h : Respelled head head') (hs : RespelledAll items items') :
      Respelled (.list (head :: items)) (.list (head' :: items'))

/-- The same for operands, of which keywords and their values stay as they are. -/
inductive RespelledAll : List Value → List Value → Prop
  | nil : RespelledAll [] []
  | last {keyword : Value} (h : keyword.isKeyword = true) : RespelledAll [keyword] [keyword]
  | pair {keyword v : Value} {rest rest' : List Value} (h : keyword.isKeyword = true)
      (hs : RespelledAll rest rest') :
      RespelledAll (keyword :: v :: rest) (keyword :: v :: rest')
  | positional {v v' : Value} {rest rest' : List Value} (h : v.isKeyword = false)
      (hv : Respelled v v') (hs : RespelledAll rest rest') :
      RespelledAll (v :: rest) (v' :: rest')

end

theorem Respelled.keyword? {v v' : Value} (h : v.Respelled v') : v'.keyword? = v.keyword? := by
  cases h <;> rfl

theorem Respelled.not_str {v v' : Value} (h : v.Respelled v') (hv : ∀ s, v ≠ .str s) (s : String) :
    v' ≠ .str s := by
  cases h with
  | same => exact hv s
  | form => nofun
  | malformed => nofun

end Value

namespace Operands

theorem split_keyword {v : Value} {key : String} (h : v.keyword? = some key) (w : Value)
    (rest : List Value) :
    split (v :: w :: rest) = { split rest with pairs := (key, w) :: (split rest).pairs } := by
  simp only [split, h]

theorem split_positional {v : Value} (h : v.keyword? = none) (rest : List Value) :
    split (v :: rest) = { split rest with positional := v :: (split rest).positional } := by
  cases rest <;> simp only [split, h]

theorem split_respelled {operands operands' : List Value}
    (h : Value.RespelledAll operands operands') :
    (split operands').pairs = (split operands).pairs ∧
      List.Forall₂ Value.Respelled (split operands).positional (split operands').positional := by
  induction hn : operands.length using Nat.strongRecOn generalizing operands operands' with
  | ind n ih =>
      cases h with
      | nil => exact ⟨rfl, .nil⟩
      | @last keyword hk =>
          obtain ⟨key, hkey⟩ := Option.isSome_iff_exists.mp hk
          have hsplit : split [keyword] = ⟨[], [(key, .bool true)]⟩ := by simp only [split, hkey]
          rw [hsplit]
          exact ⟨rfl, .nil⟩
      | @pair keyword v rest rest' hk hs =>
          obtain ⟨key, hkey⟩ := Option.isSome_iff_exists.mp hk
          rw [List.length_cons, List.length_cons] at hn
          obtain ⟨hpairs, hpositional⟩ := ih rest.length (by omega) hs rfl
          rw [split_keyword hkey, split_keyword hkey]
          exact ⟨congrArg (_ :: ·) hpairs, hpositional⟩
      | @positional v v' rest rest' hk hv hs =>
          have hkey : v.keyword? = none :=
            Option.isNone_iff_eq_none.mp (Option.isSome_eq_false_iff.mp hk)
          rw [List.length_cons] at hn
          obtain ⟨hpairs, hpositional⟩ := ih rest.length (by omega) hs rfl
          rw [split_positional hkey, split_positional (hv.keyword?.trans hkey)]
          exact ⟨hpairs, .cons hv hpositional⟩

end Operands

namespace Registry

def IsStandard (r : Registry) : Prop :=
  ∀ symbol, (r.get? symbol).map ({ · with calls := 0 }) = Registry.builtIn.get? symbol

theorem get?_builtIn {op : Operator} {symbol : String} (h : symbol ∈ op.spellings) :
    (builtIn : Registry).get? symbol = some { symbol := symbol, kind := op } := by
  simp only [Operator.spellings, List.mem_cons, List.not_mem_nil, or_false] at h
  rcases h with rfl | rfl <;> cases op <;>
    simp [builtIn, Operator.all, register, Table.get?_insert_eq, Operator.glyph, Operator.latin]

theorem IsStandard.get? {r : Registry} (h : r.IsStandard) {symbol : String} {g : Gesture}
    (hg : (builtIn : Registry).get? symbol = some g) :
    ∃ calls, r.get? symbol = some { g with calls := calls } := by
  obtain ⟨g', hr, rfl⟩ := Option.map_eq_some_iff.mp ((h symbol).trans hg)
  exact ⟨g'.calls, hr⟩

theorem isStandard_builtIn : IsStandard builtIn := by
  intro symbol
  have huncounted : ∀ g : Gesture, Registry.builtIn.get? symbol = some g →
      { g with calls := 0 } = g := by
    refine List.foldlRecOn (motive := fun r : Registry =>
      ∀ g, r.get? symbol = some g → { g with calls := 0 } = g) Operator.all _ ?_ ?_
    · intro g hg
      cases hg
    · intro r hr op _ g hg
      simp only [register, Table.get?_insert_eq] at hg
      split at hg
      · cases hg
        rfl
      · split at hg
        · cases hg
          rfl
        · exact hr g hg
  cases hg : (builtIn : Registry).get? symbol with
  | none => rfl
  | some g => exact congrArg some (huncounted g hg)

end Registry

namespace Value

theorem respelled_refl (vs : List Value) : List.Forall₂ Respelled vs vs :=
  List.forall₂_same.mpr fun v _ => .same v

theorem Respelled.of_form {symbol : String} {operands : List Value} {v : Value}
    (h : (Value.list (.str symbol :: operands)).Respelled v) :
    ∃ symbol' operands', v = .list (.str symbol' :: operands') ∧ SameHead symbol symbol' ∧
      (Operands.split operands').keywords = (Operands.split operands).keywords ∧
      List.Forall₂ Respelled (Operands.split operands).positional
        (Operands.split operands').positional := by
  cases h with
  | same => exact ⟨symbol, operands, rfl, Or.inl rfl, rfl, respelled_refl _⟩
  | form hsymbol hs =>
      obtain ⟨hpairs, hpositional⟩ := Operands.split_respelled hs
      exact ⟨_, _, rfl, hsymbol, by simp only [Operands.keywords, hpairs], hpositional⟩
  | malformed hhead => exact absurd rfl (hhead symbol)

theorem Respelled.of_malformed {items : List Value} {v : Value} (h : (list items).Respelled v)
    (hitems : ∀ symbol operands, list items ≠ .list (.str symbol :: operands)) :
    ∃ items', v = .list items' ∧
      ∀ symbol operands, list items' ≠ .list (.str symbol :: operands) := by
  cases h with
  | same => exact ⟨items, rfl, hitems⟩
  | form => exact absurd rfl (hitems _ _)
  | malformed hhead hv =>
      refine ⟨_, rfl, fun symbol operands heq => ?_⟩
      cases heq
      exact hv.not_str hhead symbol rfl

theorem Respelled.of_atom {v v' : Value} (h : v.Respelled v') (hv : v.isAtom = true) : v' = v := by
  cases h with
  | same => rfl
  | form => cases hv
  | malformed => cases hv

end Value

namespace Comparison

def spellings (S : Context → Context → Prop) (hS : Steady S fun _ => False) : Comparison where
  heads := SameHead
  exprs := Value.Respelled
  contexts := S
  spoils _ := False
  head_refl _ := Or.inl rfl
  form := Value.Respelled.of_form
  malformed := Value.Respelled.of_malformed
  atom := Value.Respelled.of_atom
  tacit := hS.toTacit.excusing fun _ => False.elim
  responses := Or.inr hS.response
  spoils_failed h := (h (.mutate .coherence)).elim

theorem registries_of_isStandard {S : Context → Context → Prop} {hS : Steady S fun _ => False}
    {r r' : Registry} (h : r.IsStandard) (h' : r'.IsStandard) :
    (spellings S hS).Registries r r' := by
  rintro symbol symbol' (rfl | ⟨op, hsymbol, hsymbol'⟩)
  · cases hg : Registry.builtIn.get? symbol with
    | none =>
        have hr := (h symbol).trans hg
        have hr' := (h' symbol).trans hg
        rw [Option.map_eq_none_iff.mp hr, Option.map_eq_none_iff.mp hr']
        exact .none symbol
    | some g =>
        obtain ⟨calls, hr⟩ := h.get? hg
        obtain ⟨calls', hr'⟩ := h'.get? hg
        have hbuiltIn := Registry.isBuiltIn_builtIn symbol g hg
        rw [hr, hr']
        exact .some ⟨rfl, Or.inl rfl, hbuiltIn, hbuiltIn⟩
  · obtain ⟨calls, hr⟩ := h.get? (Registry.get?_builtIn hsymbol)
    obtain ⟨calls', hr'⟩ := h'.get? (Registry.get?_builtIn hsymbol')
    rw [hr, hr']
    exact .some ⟨rfl, Or.inr ⟨op, hsymbol, hsymbol'⟩, rfl, rfl⟩

end Comparison

theorem steady_eq : Steady Eq fun _ => False where
  contains h _ := h ▸ rfl
  nodeCount h := h ▸ rfl
  entities_granted h _ hc := h ▸ hc
  entities_refused h _ _ hc := Or.inr (h ▸ hc)
  depth_granted h _ hd := h ▸ hd
  depth_refused h _ _ hd := Or.inr (h ▸ hd)
  withEntity h _ _ := h ▸ rfl
  withRelation h _ _ _ _ := h ▸ rfl
  withAttributes h _ _ := h ▸ rfl
  recordTension h _ _ _ := h ▸ rfl
  recordDialogue h _ _ _ := h ▸ rfl
  setLifecycle? {c c'} h name status intentions := by
    rw [← h]
    cases c.setLifecycle? name status intentions with
    | none => exact .none
    | some t => exact .some rfl
  response h _ := h ▸ rfl

abbrev Context.SameButTimes : Context → Context → Prop := Context.Agree Eq

theorem steady_sameButTimes : Steady Context.SameButTimes fun _ => False := by
  refine Context.steady_agree (fun a a' h => ?_) fun _ _ h => Or.inr h.symm
  rw [h]
  exact ⟨Nat.le_refl _, Nat.le_refl _⟩

theorem Context.essential_apply (options : CycleOptions) : Context.Essential options.apply := by
  have hfairCare : Context.Essential Context.enableFairCare := ⟨fun _ => rfl, fun _ => rfl⟩
  have hoperator (id : String) : Context.Essential (·.setOperator id) :=
    ⟨fun _ => rfl, fun _ => rfl⟩
  obtain ⟨operator?, fairCare⟩ := options
  cases operator? <;> cases fairCare
  · exact ⟨fun _ => rfl, fun _ => rfl⟩
  · exact hfairCare
  · exact hoperator _
  · exact ⟨fun _ => rfl, fun _ => rfl⟩

def Recovery.Respects (S : Context → Context → Prop) : Recovery → Prop
  | .marker => True
  | .custom act => ∀ e intentions c c', S c c' →
      Alike Eq S (act e intentions c) (act e intentions c')

theorem Recovery.respects_eq (recovery : Recovery) : recovery.Respects Eq := by
  cases recovery with
  | marker => trivial
  | custom act =>
      rintro e intentions c _ rfl
      exact alike_refl _

namespace Machine

structure Resembles (S : Context → Context → Prop) (m m' : Machine) : Prop where
  context : S m.context m'.context
  depth : m'.depth = m.depth
  gestures : m.gestures.IsStandard
  gestures' : m'.gestures.IsStandard
  recovery : m'.recovery = m.recovery
  respects : m.recovery.Respects S

variable {S : Context → Context → Prop} {m m' : Machine}

theorem resembles_self (h : m.gestures.IsStandard) : m.Resembles Eq m :=
  ⟨rfl, rfl, h, h, rfl, m.recovery.respects_eq⟩

theorem Resembles.twin (hS : Steady S fun _ => False) (h : m.Resembles S m') :
    (Comparison.spellings S hS).Twin m m' where
  context := h.context
  depth := h.depth
  gestures := Comparison.registries_of_isStandard h.gestures h.gestures'
  recovery := by
    refine Or.inr ⟨h.recovery, fun f hf e intentions c c' hc => Or.inr ?_⟩
    have hrespects := h.respects
    rw [hf] at hrespects
    refine (hrespects e intentions c c' hc).mono (fun e e' he => ?_) fun _ _ hs => hs
    exact he ▸ .same e

inductive SameResult : Value → Value → Prop
  | same (v : Value) : SameResult v v
  | failed {e e' : EvalError} (h : e.Akin SameHead Value.Respelled e') :
      SameResult (.failed e.message) (.failed e'.message)

theorem respelled_evaluate (hS : Steady S fun _ => False) (h : m.Resembles S m')
    (intentions : List String) {expr expr' : Value} (hexpr : expr.Respelled expr') :
    Alike (EvalError.Akin SameHead Value.Respelled) (fun m m' => S m.context m'.context)
      (evaluate intentions expr m) (evaluate intentions expr' m') := by
  have hexpr : (Comparison.spellings S hS).exprs expr expr' := hexpr
  rcases Comparison.twin_evaluate intentions hexpr (h.twin hS) with ⟨_, _, hs⟩ | ⟨halike, _⟩
  · exact hs.elim
  · exact halike.mono (fun _ _ he => he) fun _ _ ht => ht.context

theorem respelled_evaluateAll (hS : Steady S fun _ => False) (h : m.Resembles S m')
    (intentions : List String) {exprs exprs' : List Value}
    (hexprs : List.Forall₂ Value.Respelled exprs exprs') :
    List.Forall₂ SameResult (evaluateAll intentions exprs m).1
        (evaluateAll intentions exprs' m').1 ∧
      S (evaluateAll intentions exprs m).2.context
        (evaluateAll intentions exprs' m').2.context := by
  have hrequests : (Comparison.spellings S hS).Requests (exprs.map (Request.mk intentions))
      (exprs'.map (Request.mk intentions)) := by
    rw [Comparison.Requests, List.forall₂_map_left_iff, List.forall₂_map_right_iff]
    exact hexprs.imp fun _ _ hv => ⟨rfl, hv⟩
  rw [evaluateAll_eq, evaluateAll_eq]
  rcases Comparison.twin_requests hrequests (h.twin hS) with ⟨_, _, hs⟩ | ⟨hagree, hend, _⟩
  · exact hs.elim
  · refine ⟨?_, hend.context⟩
    rw [List.forall₂_map_left_iff, List.forall₂_map_right_iff]
    refine hagree.imp fun r r' hr => ?_
    cases hr with
    | ok v => exact .same v
    | error he => exact .failed he

theorem spellings_are_interchangeable (hS : S = Eq ∨ S = Context.SameButTimes)
    (h : m.Resembles S m') :
    (∀ intentions {expr expr'}, Value.Respelled expr expr' →
      Alike (EvalError.Akin SameHead Value.Respelled) (fun m m' => S m.context m'.context)
        (evaluate intentions expr m) (evaluate intentions expr' m')) ∧
    ∀ {program program' : Program} options, program'.intentions = program.intentions →
      List.Forall₂ Value.Respelled program.expressions program'.expressions →
        List.Forall₂ SameResult (m.runProgram program options).1.results
            (m'.runProgram program' options).1.results ∧
          S (m.runProgram program options).2.context
            (m'.runProgram program' options).2.context := by
  have hsteady : Steady S fun _ => False := by
    rcases hS with rfl | rfl
    · exact steady_eq
    · exact steady_sameButTimes
  have hchange : ∀ {f}, Context.Essential f → ∀ {c c'}, S c c' → S (f c) (f c') := by
    rcases hS with rfl | rfl
    · exact fun _ _ _ hc => hc ▸ rfl
    · exact fun hf _ _ hc => hc.change hf
  refine ⟨fun intentions _ _ hexpr => respelled_evaluate hsteady h intentions hexpr, ?_⟩
  rintro ⟨exprs, _⟩ ⟨exprs', intentions⟩ options rfl hexprs
  have hprepared : (m.prepare options).Resembles S (m'.prepare options) :=
    ⟨hchange (Context.essential_apply options) h.context, h.depth, h.gestures, h.gestures',
      h.recovery, h.respects⟩
  obtain ⟨hresults, hend⟩ := respelled_evaluateAll hsteady hprepared intentions hexprs
  exact ⟨hresults, hchange Context.essential_sampled hend⟩

def clocked (now : Nat) : Machine := { context := .bare "clocked" .builtIn now }

def link : Value :=
  .list [.str "Λ", .str "a", .list [.str "Alpha", .str "Λ"], .str ":type", .list [.str "Σ"]]

def link' : Value :=
  .list [.str "Lambda", .str "a", .list [.str "Α", .str "Λ"], .str ":type", .list [.str "Σ"]]

theorem link_respelled : link.Respelled link' := by
  have hinner : Value.Respelled (.list [.str "Alpha", .str "Λ"]) (.list [.str "Α", .str "Λ"]) :=
    .form (Or.inr ⟨.alpha, by decide, by decide⟩) (.positional rfl (.same _) .nil)
  exact .form (Or.inr ⟨.lambda, by decide, by decide⟩)
    (.positional rfl (.same _) (.positional rfl hinner (.pair rfl .nil)))

theorem link_is_interchangeable :
    link.Respelled link' ∧
    (clocked 0).Resembles Context.SameButTimes (clocked 1) ∧
    Alike (EvalError.Akin SameHead Value.Respelled)
      (fun m m' => Context.SameButTimes m.context m'.context)
      (evaluate ["why"] link (clocked 0)) (evaluate ["why"] link' (clocked 1)) ∧
    (clocked 0).Resembles Eq (clocked 0) ∧
    Alike (EvalError.Akin SameHead Value.Respelled) (fun m m' => m.context = m'.context)
      (evaluate ["why"] link (clocked 0)) (evaluate ["why"] link' (clocked 0)) := by
  have hresembles : (clocked 0).Resembles Context.SameButTimes (clocked 1) :=
    ⟨⟨rfl, rfl⟩, rfl, Registry.isStandard_builtIn, Registry.isStandard_builtIn, rfl, trivial⟩
  have hself : (clocked 0).Resembles Eq (clocked 0) := resembles_self Registry.isStandard_builtIn
  have hsame := spellings_are_interchangeable (Or.inr rfl) hresembles
  have hequal := spellings_are_interchangeable (Or.inl rfl) hself
  exact ⟨link_respelled, hresembles, hsame.1 ["why"] link_respelled, hself,
    hequal.1 ["why"] link_respelled⟩

end Machine

end GestureGraph
