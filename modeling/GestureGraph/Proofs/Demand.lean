import GestureGraph.Proofs.Decision

namespace GestureGraph

open Context

inductive Demand where
  | entity (name : String) (attrs : Attributes)
  | room (names : List String)

namespace Demand

def run : Demand → Change Unit
  | .entity name attrs => discard (addEntity name attrs)
  | .room names => ensureRoom names

theorem unchanged {d : Demand} {c c' : Context} {e : LimitError} (h : d.run c = .error e c') :
    c' = c := by
  cases d with
  | entity name attrs =>
      have h := error_of_discard h
      rcases addEntity_cases name attrs c with ⟨hrun, _⟩ | ⟨l, hrun⟩
      · rw [hrun] at h
        cases h
      · rw [hrun] at h
        cases h
        rfl
  | room names =>
      have h : ensureRoom names c = .error e c' := h
      rcases ensureRoom_cases names c with hrun | ⟨l, hrun⟩
      · rw [hrun] at h
        cases h
      · rw [hrun] at h
        cases h
        rfl

end Demand

namespace Call

def names (call : Call) : List String := call.args.filterMap Value.name?

def collapsing (call : Call) (vs : List Value) : List Demand :=
  (vs.filterMap Value.name?).map fun name => .entity name (call.attributes [])

def demands (call : Call) : Operator → List Demand
  | .alpha => call.collapsing call.args
  | .lambda => [.room call.names]
  | .sigma =>
      let name := (call.keywordName? "name").getD (synthesisName call.names)
      [.room (call.names ++ [name]), .entity name (call.synthesis call.names)]
  | .nabla =>
      match call.names with
      | [] => []
      | target :: sources => [.room (sources ++ [target])]
  | .omega => []
  | .phi => []

end Call

def Mutation.demands : Mutation → List Demand
  | .addEntity name attrs => [.entity name attrs]
  | .addRelation source target _ _ => [.room [source, target]]
  | .enrich name _ => [.entity name {}]
  | .ensureRoom names => [.room names]
  | _ => []

def Move.demands : Move → List Demand
  | .collapse call v => call.collapsing [v]
  | .execute g call => call.demands g.kind
  | .mutate μ => μ.demands
  | _ => []

section owing

variable {α β : Type} {ds more : List Demand} {c : Context}

/-- A limit that the act runs into is that of one of the demands, made where the act ends. -/
def Owes (ds : List Demand) (a : Act α) (c : Context) : Prop :=
  ∀ e c', a c = .error (.limit e) c' → ∃ d ∈ ds, d.run c' = .error e c'

theorem owes_of_ok {a : Act α} {v : α} {c' : Context} (h : a c = .ok v c') : Owes ds a c := by
  intro l t hl
  rw [h] at hl
  cases hl

theorem owes_of_other {a : Act α} {e : EvalError} {c' : Context} (h : a c = .error e c')
    (hother : e.isLimit = false) : Owes ds a c := by
  intro l t hl
  rw [h] at hl
  cases hl
  cases hother

theorem owes_bind {a : Act α} {f : α → Act β} (ha : Owes ds a c)
    (hf : ∀ v t, a c = .ok v t → Owes ds (f v) t) : Owes ds (a >>= f) c := by
  intro e c' he
  cases hrun : a c with
  | ok v t =>
      rw [bind_of_ok hrun] at he
      exact hf v t hrun e c' he
  | error e' t =>
      rw [bind_of_error hrun] at he
      cases he
      exact ha e c' hrun

theorem Owes.subset {a : Act α} (h : Owes ds a c) (hsub : ds ⊆ more) : Owes more a c := by
  intro e c' he
  obtain ⟨d, hd, hrun⟩ := h e c' he
  exact ⟨d, hsub hd, hrun⟩

theorem owes_of_settles {touched : List String} {a : Act α} (h : Settles touched a)
    (hroom : c.HasRoom touched) : Owes ds a c := by
  obtain ⟨v, t, hrun, _⟩ := h c hroom
  exact owes_of_ok hrun

theorem owes_discard {a : Act α} (h : Owes ds a c) : Owes ds (discard a) c :=
  owes_bind h fun _ _ _ => owes_of_ok rfl

theorem owes_act {x : Change α}
    (h : ∀ e c', x c = .error e c' → ∃ d ∈ ds, d.run c' = .error e c') : Owes ds x.act c := by
  intro e c' he
  rw [Change.act] at he
  cases hx : x c with
  | ok v t =>
      rw [hx] at he
      cases he
  | error l t =>
      rw [hx] at he
      cases he
      exact h e c' hx

theorem owes_addEntity {name : String} {attrs : Attributes} (h : .entity name attrs ∈ ds) :
    Owes ds (addEntity name attrs).act c := by
  refine owes_act fun e c' he => ?_
  have hd : (Demand.entity name attrs).run c = .error e c' := bind_of_error he _
  obtain rfl := Demand.unchanged hd
  exact ⟨_, h, hd⟩

theorem owes_ensureRoom {names : List String} {a : Act α} (h : .room names ∈ ds)
    (ha : c.HasRoom names → Owes ds a c) : Owes ds ((ensureRoom names).act >>= fun _ => a) c := by
  rcases ensureRoom_cases names c with hrun | ⟨e, hrun⟩
  · have hok : (ensureRoom names).act c = .ok () c := by rw [Change.act, hrun]
    refine owes_bind (owes_of_ok hok) fun _ t ht => ?_
    rw [hok] at ht
    cases ht
    exact ha (hasRoom_of_ensureRoom hrun)
  · have herr : (ensureRoom names).act c = .error (.limit e) c := by rw [Change.act, hrun]
    intro l t hl
    rw [bind_of_error herr] at hl
    cases hl
    exact ⟨_, h, hrun⟩

end owing

namespace Call

variable {call : Call} {ds : List Demand} {c : Context}

theorem owes_requireOperands (call : Call) (least : Nat) (c : Context) :
    Owes ds (call.requireOperands least) c := by
  rw [requireOperands]
  split
  · exact owes_of_other rfl rfl
  · exact owes_of_ok rfl

theorem owes_nameOf (call : Call) (v : Value) (c : Context) : Owes ds (call.nameOf v) c := by
  rw [nameOf]
  cases v.name? with
  | none => exact owes_of_other rfl rfl
  | some name => exact owes_of_ok rfl

theorem owes_namesOf (call : Call) (vs : List Value) (c : Context) :
    Owes ds (call.namesOf vs) c := by
  induction vs generalizing c with
  | nil => exact owes_of_ok rfl
  | cons v vs ih =>
      exact owes_bind (call.owes_nameOf v c) fun _ t _ =>
        owes_bind (ih t) fun _ _ _ => owes_of_ok rfl

theorem ok_of_namesOf {vs : List Value} {names : List String} {t : Context}
    (h : call.namesOf vs c = .ok names t) : vs.filterMap Value.name? = names ∧ t = c := by
  rcases call.namesOf_cases vs c with ⟨names', hvs⟩ | ⟨e, he⟩
  · rw [namesOf_of_names hvs] at h
    cases h
    refine ⟨?_, rfl⟩
    have hid : vs.filterMap Value.name? = (vs.map Value.name?).filterMap id := by
      rw [List.filterMap_map]
      rfl
    rw [hid, hvs, List.filterMap_map]
    exact List.filterMap_some
  · rw [he] at h
    cases h

theorem owes_collapse (call : Call) (v : Value) (c : Context) :
    Owes (call.collapsing [v]) (call.collapse v) c := by
  refine owes_bind (call.owes_nameOf v c) fun name t hname => ?_
  obtain ⟨hv, rfl⟩ := ok_of_nameOf hname
  refine owes_bind (owes_addEntity ?_) fun _ _ _ => owes_of_ok rfl
  simp [collapsing, hv]

theorem owes_collapseAll (call : Call) (vs : List Value) (c : Context) :
    Owes (call.collapsing vs) (call.collapseAll vs) c := by
  induction vs generalizing c with
  | nil => exact owes_of_ok rfl
  | cons v vs ih =>
      have hfirst : call.collapsing [v] ⊆ call.collapsing (v :: vs) :=
        List.map_subset _ (List.filterMap_subset _ (by simp))
      have hrest : call.collapsing vs ⊆ call.collapsing (v :: vs) :=
        List.map_subset _ (List.filterMap_subset _ (by simp))
      exact owes_bind ((call.owes_collapse v c).subset hfirst) fun _ t _ =>
        owes_bind ((ih t).subset hrest) fun _ _ _ => owes_of_ok rfl

theorem owes_relate (call : Call) {op : Operator} {least : Nat} (hop : Relating op least)
    (c : Context) : Owes (call.demands op) (call.relate call.names op) c := by
  cases hop with
  | lambda =>
      refine owes_ensureRoom (by simp [demands]) fun hroom => ?_
      refine owes_of_settles (settles_bind (settles_act ?_) fun _ => settles_pure _) hroom
      exact settles_chain _ _ (List.Subset.refl _)
  | sigma =>
      refine owes_ensureRoom (by simp [demands]) fun hroom => ?_
      refine owes_bind (owes_discard (owes_addEntity (by simp [demands, synthesis])))
        fun _ t ht => ?_
      obtain ⟨_, ht⟩ := ok_of_discard ht
      rw [ok_of_addEntity (Change.ok_of_act ht)]
      refine owes_of_settles (settles_bind (settles_act ?_) fun _ => settles_pure _)
        (hroom.withEntity (by simp) _)
      exact settles_gather "Σ" (by simp) (by simp)
  | nabla =>
      cases hnames : call.names with
      | nil => exact owes_of_ok rfl
      | cons target sources =>
          refine owes_ensureRoom (by simp [demands, hnames]) fun hroom => ?_
          exact owes_of_settles (call.settles_nabla target sources) hroom

theorem owes_perform (call : Call) (op : Operator) (c : Context) :
    Owes (call.demands op) (call.perform op) c := by
  have hrelating {least : Nat} (hop : Relating op least) :
      Owes (call.demands op) (call.perform op) c := by
    rw [perform_eq_relate call hop]
    refine owes_bind (call.owes_requireOperands least c) fun _ t _ => ?_
    refine owes_bind (call.owes_namesOf call.args t) fun names u hnames => ?_
    obtain ⟨rfl, rfl⟩ := ok_of_namesOf hnames
    exact call.owes_relate hop _
  cases op with
  | alpha =>
      refine owes_bind (call.owes_requireOperands 1 c) fun _ t _ => ?_
      exact owes_bind (call.owes_collapseAll call.args t) fun _ _ _ => owes_of_ok rfl
  | lambda => exact hrelating .lambda
  | sigma => exact hrelating .sigma
  | nabla => exact hrelating .nabla
  | omega =>
      show Owes _ call.giveBack c
      rw [giveBack]
      cases (call.args.getLastD .nil).name? with
      | none => exact owes_of_ok rfl
      | some name => exact owes_of_ok rfl
  | phi => exact owes_of_ok rfl

end Call

theorem Mutation.owes_run (μ : Mutation) (c : Context) : Owes μ.demands μ.run.act c := by
  refine owes_act fun e c' he => ?_
  cases μ with
  | addEntity name attrs =>
      have he : (Demand.entity name attrs).run c = .error e c' := he
      obtain rfl := Demand.unchanged he
      exact ⟨_, List.mem_singleton_self _, he⟩
  | addRelation source target kind attrs =>
      have he := error_of_discard he
      rcases ensureRoom_cases [source, target] c with hroom | ⟨l, hroom⟩
      · have hs : source ∈ [source, target] := by simp
        have ht : target ∈ [source, target] := by simp
        obtain ⟨t, hok, _⟩ := addRelation_of_room (hasRoom_of_ensureRoom hroom) hs ht kind attrs
        rw [hok] at he
        cases he
      · rw [Context.addRelation, bind_of_error hroom] at he
        cases he
        exact ⟨_, List.mem_singleton_self _, hroom⟩
  | enrich name attrs =>
      have he := error_of_discard he
      rcases addMissing_cases name c with ⟨t, hok, _⟩ | ⟨l, hmissing, hadd⟩
      · rw [Context.enrich, bind_of_ok hok] at he
        cases he
      · rw [Context.enrich, bind_of_error hmissing] at he
        cases he
        exact ⟨_, List.mem_singleton_self _, bind_of_error hadd _⟩
  | ensureRoom names =>
      have he : (Demand.room names).run c = .error e c' := he
      obtain rfl := Demand.unchanged he
      exact ⟨_, List.mem_singleton_self _, he⟩
  | _ => cases he

end GestureGraph
