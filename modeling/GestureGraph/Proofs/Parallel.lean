import GestureGraph.Proofs.Alteration

/-!
Two runs side by side. From states that are related, the second does as the first, unless the first
fails with an error that excuses both from the comparison. All that operators do to contexts goes in
parallel along a relation that the changes of a context respect.
-/

namespace GestureGraph

section parallel

variable {ε σ α β : Type}

inductive Alike (E : ε → ε → Prop) (S : σ → σ → Prop) :
    EStateM.Result ε σ α → EStateM.Result ε σ α → Prop
  | ok {s s' : σ} (a : α) (h : S s s') : Alike E S (.ok a s) (.ok a s')
  | error {e e' : ε} {s s' : σ} (he : E e e') (h : S s s') : Alike E S (.error e s) (.error e' s')

theorem Alike.cases {E : ε → ε → Prop} {S : σ → σ → Prop} {r r' : EStateM.Result ε σ α}
    (h : Alike E S r r') :
    (∃ a s s', r = .ok a s ∧ r' = .ok a s' ∧ S s s') ∨
      ∃ e e' s s', r = .error e s ∧ r' = .error e' s' ∧ E e e' ∧ S s s' := by
  cases h with
  | ok a h => exact Or.inl ⟨a, _, _, rfl, rfl, h⟩
  | error he h => exact Or.inr ⟨_, _, _, _, rfl, rfl, he, h⟩

theorem Alike.state {E : ε → ε → Prop} {S : σ → σ → Prop} {r r' : EStateM.Result ε σ α}
    (h : Alike E S r r') : S (after r) (after r') := by
  cases h with
  | ok a h => exact h
  | error he h => exact h

theorem Alike.mono {E E' : ε → ε → Prop} {S S' : σ → σ → Prop} {r r' : EStateM.Result ε σ α}
    (h : Alike E S r r') (hE : ∀ e e', E e e' → E' e e') (hS : ∀ s s', S s s' → S' s s') :
    Alike E' S' r r' := by
  cases h with
  | ok a h => exact .ok a (hS _ _ h)
  | error he h => exact .error (hE _ _ he) (hS _ _ h)

theorem alike_refl (r : EStateM.Result ε σ α) : Alike Eq Eq r r := by
  cases r with
  | ok a s => exact .ok a rfl
  | error e s => exact .error rfl rfl

def Parallel (E : ε → ε → Prop) (S : σ → σ → Prop) (excused : ε → Prop) (x y : EStateM ε σ α) :
    Prop :=
  ∀ s s', S s s' → (∃ e t, x s = .error e t ∧ excused e) ∨ Alike E S (x s) (y s')

variable {E : ε → ε → Prop} {S : σ → σ → Prop} {excused : ε → Prop}

theorem parallel_pure (a : α) :
    Parallel E S excused (pure a : EStateM ε σ α) (pure a) := fun _ _ h => Or.inr (.ok a h)

theorem parallel_throw {e e' : ε} (he : E e e') :
    Parallel E S excused (throw e : EStateM ε σ α) (throw e') := fun _ _ h => Or.inr (.error he h)

theorem parallel_modify {f g : σ → σ} (h : ∀ s s', S s s' → S (f s) (g s')) :
    Parallel E S excused (modify f : EStateM ε σ PUnit) (modify g) :=
  fun s s' hs => Or.inr (.ok _ (h s s' hs))

theorem parallel_get {f g : σ → EStateM ε σ α}
    (h : ∀ s s', S s s' → Parallel E S excused (f s) (g s')) :
    Parallel E S excused (get >>= f) (get >>= g) := fun s s' hs => h s s' hs s s' hs

theorem parallel_bind {x y : EStateM ε σ α} {f g : α → EStateM ε σ β}
    (hx : Parallel E S excused x y) (hf : ∀ a, Parallel E S excused (f a) (g a)) :
    Parallel E S excused (x >>= f) (y >>= g) := by
  intro s s' hs
  rcases hx s s' hs with ⟨e, t, hfail, he⟩ | halike
  · exact Or.inl ⟨e, t, bind_of_error hfail f, he⟩
  · rcases halike.cases with ⟨a, t, t', hxs, hys, ht⟩ | ⟨e, e', t, t', hxs, hys, he, ht⟩
    · rw [bind_of_ok hxs, bind_of_ok hys]
      exact hf a t t' ht
    · rw [bind_of_error hxs, bind_of_error hys]
      exact Or.inr (.error he ht)

theorem parallel_discard {x y : EStateM ε σ α} (h : Parallel E S excused x y) :
    Parallel E S excused (discard x) (discard y) := parallel_bind h fun _ => parallel_pure _

theorem parallel_forM {γ : Type} {f : γ → EStateM ε σ PUnit} (l : List γ)
    (h : ∀ a ∈ l, Parallel E S excused (f a) (f a)) :
    Parallel E S excused (l.forM f) (l.forM f) := by
  induction l with
  | nil => exact parallel_pure _
  | cons a rest ih =>
      exact parallel_bind (h a List.mem_cons_self) fun _ =>
        ih fun b hb => h b (List.mem_cons_of_mem a hb)

end parallel

/-- A relation between contexts that changes respect, and under which the second context grants what
the first grants and refuses what it refuses, unless the refusal is excused. What the two respond to
a prompt is left open. -/
structure Tacit (S : Context → Context → Prop) (excused : EvalError → Prop) : Prop where
  contains : ∀ {c c'}, S c c' → ∀ name, c'.contains name = c.contains name
  nodeCount : ∀ {c c'}, S c c' → c'.nodeCount = c.nodeCount
  entities_granted : ∀ {c c'}, S c c' → ∀ count,
    c.axioms.limits.checkEntities count = .ok () → c'.axioms.limits.checkEntities count = .ok ()
  entities_refused : ∀ {c c'}, S c c' → ∀ count e,
    c.axioms.limits.checkEntities count = .error e →
      excused (.limit e) ∨ c'.axioms.limits.checkEntities count = .error e
  depth_granted : ∀ {c c'}, S c c' → ∀ depth,
    c.axioms.limits.checkDepth depth = .ok () → c'.axioms.limits.checkDepth depth = .ok ()
  depth_refused : ∀ {c c'}, S c c' → ∀ depth e,
    c.axioms.limits.checkDepth depth = .error e →
      excused (.limit e) ∨ c'.axioms.limits.checkDepth depth = .error e
  withEntity : ∀ {c c'}, S c c' → ∀ name attrs,
    S (c.withEntity name attrs) (c'.withEntity name attrs)
  withRelation : ∀ {c c'}, S c c' → ∀ source target kind attrs,
    S (c.withRelation source target kind attrs) (c'.withRelation source target kind attrs)
  withAttributes : ∀ {c c'}, S c c' → ∀ name attrs,
    S (c.withAttributes name attrs) (c'.withAttributes name attrs)
  recordTension : ∀ {c c'}, S c c' → ∀ kind description entities,
    S (c.recordTension kind description entities) (c'.recordTension kind description entities)
  recordDialogue : ∀ {c c'}, S c c' → ∀ prompt response intentions,
    S (c.recordDialogue prompt response intentions) (c'.recordDialogue prompt response intentions)
  setLifecycle? : ∀ {c c'}, S c c' → ∀ name status intentions,
    Option.Rel S (c.setLifecycle? name status intentions) (c'.setLifecycle? name status intentions)

structure Steady (S : Context → Context → Prop) (excused : EvalError → Prop) : Prop
    extends Tacit S excused where
  response : ∀ {c c'}, S c c' → ∀ prompt, Call.response c' prompt = Call.response c prompt

theorem Tacit.excusing {S : Context → Context → Prop} {excused excused' : EvalError → Prop}
    (h : Tacit S excused) (hmore : ∀ e, excused e → excused' e) : Tacit S excused' :=
  { h with
    entities_refused := fun hc count e he => (h.entities_refused hc count e he).imp_left (hmore _)
    depth_refused := fun hc depth e he => (h.depth_refused hc depth e he).imp_left (hmore _) }

namespace Context

def fit {α : Type} (c : Context) (count : Nat) (r : EStateM.Result LimitError Context α) :
    EStateM.Result LimitError Context α :=
  match c.axioms.limits.checkEntities count with
  | .error e => .error e c
  | .ok () => r

variable {S : Context → Context → Prop} {excused : EvalError → Prop} (hS : Tacit S excused)

abbrev ParallelChange {α : Type} (S : Context → Context → Prop) (excused : EvalError → Prop)
    (x y : Change α) : Prop := Parallel Eq S (fun e => excused (.limit e)) x y

include hS

theorem missing_of_tacit {c c' : Context} (h : S c c') (names : List String) :
    c'.missing names = c.missing names := by simp only [missing, hS.contains h]

theorem alike_fit {α : Type} {c c' : Context} (h : S c c') (count : Nat)
    {r r' : EStateM.Result LimitError Context α} (hr : Alike Eq S r r') :
    (∃ e t, c.fit count r = .error e t ∧ excused (.limit e)) ∨
      Alike Eq S (c.fit count r) (c'.fit count r') := by
  simp only [fit]
  cases hc : c.axioms.limits.checkEntities count with
  | ok u =>
      rw [hS.entities_granted h count hc]
      exact Or.inr hr
  | error e =>
      rcases hS.entities_refused h count e hc with he | hc'
      · exact Or.inl ⟨e, c, rfl, he⟩
      · rw [hc']
        exact Or.inr (.error rfl h)

theorem parallel_ensureRoom (names : List String) :
    ParallelChange S excused (ensureRoom names) (ensureRoom names) := by
  intro c c' h
  simp only [ensureRoom, missing_of_tacit hS h, hS.nodeCount h]
  cases c.missing names with
  | nil => exact Or.inr (.ok _ h)
  | cons name rest => exact alike_fit hS h _ (.ok _ h)

theorem parallel_addEntity (name : String) (attrs : Attributes) :
    ParallelChange S excused (addEntity name attrs) (addEntity name attrs) := by
  intro c c' h
  simp only [addEntity, hS.nodeCount h]
  exact alike_fit hS h _ (.ok name (hS.withEntity h name attrs))

theorem parallel_addMissing (name : String) :
    ParallelChange S excused (addMissing name) (addMissing name) := by
  refine parallel_get fun c c' h => ?_
  rw [hS.contains h]
  split
  · exact parallel_discard (parallel_addEntity hS name {})
  · exact parallel_pure _

theorem parallel_addRelation (source target kind : String) (attrs : Attributes) :
    ParallelChange S excused (addRelation source target kind attrs)
      (addRelation source target kind attrs) :=
  parallel_bind (parallel_ensureRoom hS _) fun _ =>
    parallel_bind (parallel_addMissing hS source) fun _ =>
      parallel_bind (parallel_addMissing hS target) fun _ =>
        parallel_bind (parallel_modify fun _ _ h => hS.withRelation h source target kind attrs)
          fun _ => parallel_pure _

theorem parallel_enrich (name : String) (attrs : Attributes) :
    ParallelChange S excused (enrich name attrs) (enrich name attrs) :=
  parallel_bind (parallel_addMissing hS name) fun _ =>
    parallel_bind (parallel_modify fun _ _ h => hS.withAttributes h name attrs)
      fun _ => parallel_pure _

end Context

open Context

/-- Errors that differ at most in the operator or the expression that they quote. -/
inductive EvalError.Akin (heads : String → String → Prop) (exprs : Value → Value → Prop) :
    EvalError → EvalError → Prop
  | same (e : EvalError) : Akin heads exprs e e
  | malformed {v v' : Value} (h : exprs v v') :
      Akin heads exprs (.malformed v.display) (.malformed v'.display)
  | arity {operator operator' : String} (h : heads operator operator') (expected actual : Nat) :
      Akin heads exprs (.arity operator expected actual) (.arity operator' expected actual)
  | unnamed {operator operator' : String} (h : heads operator operator') (operand : String) :
      Akin heads exprs (.unnamed operator operand) (.unnamed operator' operand)

namespace Call

structure Akin (heads : String → String → Prop) (call call' : Call) : Prop where
  symbol : heads call.symbol call'.symbol
  count : call'.args.length = call.args.length
  keywords : call'.keywords = call.keywords
  intentions : call'.intentions = call.intentions

variable {heads : String → String → Prop} {exprs : Value → Value → Prop}
  {S : Context → Context → Prop} {excused : EvalError → Prop}

abbrev ParallelAct {α : Type} (heads : String → String → Prop) (exprs : Value → Value → Prop)
    (S : Context → Context → Prop) (excused : EvalError → Prop) (x y : Act α) : Prop :=
  Parallel (EvalError.Akin heads exprs) S excused x y

theorem parallel_act {α : Type} {x y : Change α} (h : ParallelChange S excused x y) :
    ParallelAct heads exprs S excused x.act y.act := by
  intro c c' hc
  simp only [Change.act]
  rcases h c c' hc with ⟨e, t, hx, he⟩ | halike
  · rw [hx]
    exact Or.inl ⟨_, t, rfl, he⟩
  · generalize x c = r, y c' = r' at halike
    cases halike with
    | ok a ht => exact Or.inr (.ok a ht)
    | error he ht => exact he ▸ Or.inr (.error (.same _) ht)

variable {call call' : Call}

theorem Akin.attributes (h : call.Akin heads call') (skip : List String) :
    call'.attributes skip = call.attributes skip := by
  simp only [Call.attributes, h.keywords, h.intentions]

theorem Akin.keywordName? (h : call.Akin heads call') (key : String) :
    call'.keywordName? key = call.keywordName? key := by simp only [Call.keywordName?, h.keywords]

theorem parallel_requireOperands (h : call.Akin heads call') (least : Nat) :
    ParallelAct heads exprs S excused (call.requireOperands least)
      (call'.requireOperands least) := by
  simp only [requireOperands, h.count]
  split
  · exact parallel_throw (.arity h.symbol _ _)
  · exact parallel_pure _

theorem parallel_nameOf (h : call.Akin heads call') (v : Value) :
    ParallelAct heads exprs S excused (call.nameOf v) (call'.nameOf v) := by
  simp only [nameOf]
  cases v.name? with
  | some name => exact parallel_pure name
  | none => exact parallel_throw (.unnamed h.symbol _)

theorem parallel_namesOf (h : call.Akin heads call') (vs : List Value) :
    ParallelAct heads exprs S excused (call.namesOf vs) (call'.namesOf vs) := by
  induction vs with
  | nil => exact parallel_pure []
  | cons v vs ih =>
      exact parallel_bind (parallel_nameOf h v) fun name =>
        parallel_bind ih fun names => parallel_pure _

variable (hS : Tacit S excused)

include hS

theorem parallel_collapse (h : call.Akin heads call') (v : Value) :
    ParallelAct heads exprs S excused (call.collapse v) (call'.collapse v) := by
  simp only [collapse, h.attributes]
  exact parallel_bind (parallel_nameOf h v) fun name =>
    parallel_bind (parallel_act (parallel_addEntity hS name _)) fun _ => parallel_pure _

theorem parallel_collapseAll (h : call.Akin heads call') (vs : List Value) :
    ParallelAct heads exprs S excused (call.collapseAll vs) (call'.collapseAll vs) := by
  induction vs with
  | nil => exact parallel_pure []
  | cons v vs ih =>
      exact parallel_bind (parallel_collapse hS h v) fun name =>
        parallel_bind ih fun names => parallel_pure _

theorem parallel_chain (kind : String) (attrs : Attributes) (names : List String) :
    ParallelChange S excused (chain kind attrs names) (chain kind attrs names) := by
  fun_induction chain kind attrs names with
  | case1 source target rest ih =>
      exact parallel_bind (parallel_addRelation hS source target kind attrs) fun id =>
        parallel_bind ih fun ids => parallel_pure _
  | case2 names hn => exact parallel_pure []

theorem parallel_gather (kind target : String) (names : List String) :
    ParallelChange S excused (gather kind target names) (gather kind target names) :=
  parallel_forM names fun name _ => parallel_discard (parallel_addRelation hS name target kind {})

theorem parallel_connect (h : call.Akin heads call') (hargs : call'.args = call.args) :
    ParallelAct heads exprs S excused call.connect call'.connect := by
  simp only [connect, hargs, h.attributes, h.keywordName?]
  exact parallel_bind (parallel_requireOperands h 2) fun _ =>
    parallel_bind (parallel_namesOf h call.args) fun names =>
      parallel_bind (parallel_act (parallel_ensureRoom hS names)) fun _ =>
        parallel_bind (parallel_act (parallel_chain hS _ _ names)) fun _ => parallel_pure _

theorem parallel_synthesize (h : call.Akin heads call') (hargs : call'.args = call.args) :
    ParallelAct heads exprs S excused call.synthesize call'.synthesize := by
  simp only [synthesize, hargs, h.attributes, h.keywordName?]
  exact parallel_bind (parallel_requireOperands h 2) fun _ =>
    parallel_bind (parallel_namesOf h call.args) fun components =>
      parallel_bind (parallel_act (parallel_ensureRoom hS _)) fun _ =>
        parallel_bind (parallel_discard (parallel_act (parallel_addEntity hS _ _))) fun _ =>
          parallel_bind (parallel_act (parallel_gather hS _ _ components)) fun _ =>
            parallel_pure _

theorem parallel_enrich (h : call.Akin heads call') (hargs : call'.args = call.args) :
    ParallelAct heads exprs S excused call.enrich call'.enrich := by
  simp only [enrich, hargs, h.attributes]
  refine parallel_bind (parallel_requireOperands h 1) fun _ => ?_
  refine parallel_bind (parallel_namesOf h call.args) fun names => ?_
  cases names with
  | nil => exact parallel_pure _
  | cons target sources =>
      exact parallel_bind (parallel_act (parallel_ensureRoom hS _)) fun _ =>
        parallel_bind (parallel_discard (parallel_act (Context.parallel_enrich hS target _)))
          fun _ => parallel_bind (parallel_act (parallel_gather hS _ target sources)) fun _ =>
            parallel_pure _

theorem parallel_giveBack (h : call.Akin heads call') (hargs : call'.args = call.args) :
    ParallelAct heads exprs S excused call.giveBack call'.giveBack := by
  simp only [giveBack, hargs, h.intentions]
  cases (call.args.getLastD .nil).name? with
  | none => exact parallel_pure _
  | some name =>
      refine parallel_bind (parallel_modify fun c c' hc => ?_) fun _ => parallel_pure _
      have hlifecycle := hS.setLifecycle? hc name statusReturned call.intentions
      generalize c.setLifecycle? name statusReturned call.intentions = changed,
        c'.setLifecycle? name statusReturned call.intentions = changed' at hlifecycle
      cases hlifecycle with
      | none => exact hS.recordTension hc _ _ _
      | some hchanged => exact hchanged

theorem parallel_converse (h : call.Akin heads call') (hargs : call'.args = call.args)
    (hresponse : ∀ {c c'}, S c c' → ∀ prompt, response c' prompt = response c prompt) :
    ParallelAct heads exprs S excused call.converse call'.converse := by
  simp only [converse, hargs, h.intentions]
  refine parallel_get fun c c' hc => ?_
  rw [hresponse hc]
  exact parallel_bind (parallel_modify fun _ _ ht => hS.recordDialogue ht _ _ _) fun _ =>
    parallel_pure _

theorem parallel_perform (h : call.Akin heads call') (hargs : call'.args = call.args)
    {op : Operator}
    (hop : op = .phi →
      ∀ {c c'}, S c c' → ∀ prompt, response c' prompt = response c prompt) :
    ParallelAct heads exprs S excused (call.perform op) (call'.perform op) := by
  cases op with
  | alpha =>
      simp only [perform, collapseOperands, hargs]
      exact parallel_bind (parallel_requireOperands h 1) fun _ =>
        parallel_bind (parallel_collapseAll hS h call.args) fun _ => parallel_pure _
  | lambda => exact parallel_connect hS h hargs
  | sigma => exact parallel_synthesize hS h hargs
  | omega => exact parallel_giveBack hS h hargs
  | nabla => exact parallel_enrich hS h hargs
  | phi => exact parallel_converse hS h hargs (hop rfl)

end Call

end GestureGraph
