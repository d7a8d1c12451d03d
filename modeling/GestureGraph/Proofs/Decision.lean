import GestureGraph.Proofs.Room

namespace GestureGraph

open Context

inductive Relating : Operator → Nat → Prop
  | lambda : Relating .lambda 2
  | sigma : Relating .sigma 2
  | nabla : Relating .nabla 1

/-- An act that succeeds under a condition. Without it the ceiling refuses the act before it has
changed anything. -/
structure DecidedBy {α : Type} (x : Act α) (c : Context) (room : Prop) : Prop where
  succeeds : room → ∃ a c', x c = .ok a c'
  refuses : ¬ room →
    ∃ count, x c = .error (.limit (.entityCount count c.axioms.limits.entities)) c

section decisions

variable {α : Type} {c : Context} {room : Prop} {touched : List String}

theorem DecidedBy.limit_iff {x : Act α} (h : DecidedBy x c room) :
    (∃ count max c', x c = .error (.limit (.entityCount count max)) c') ↔ ¬ room := by
  constructor
  · rintro ⟨count, max, c', hx⟩ hroom
    obtain ⟨a, c'', hok⟩ := h.succeeds hroom
    rw [hok] at hx
    cases hx
  · intro hroom
    obtain ⟨count, hx⟩ := h.refuses hroom
    exact ⟨count, _, c, hx⟩

theorem DecidedBy.unchanged {x : Act α} (h : DecidedBy x c room) {e : EvalError} {c' : Context}
    (hx : x c = .error e c') : c' = c := by
  by_cases hroom : room
  · obtain ⟨a, c'', hok⟩ := h.succeeds hroom
    rw [hok] at hx
    cases hx
  · obtain ⟨count, herr⟩ := h.refuses hroom
    rw [herr] at hx
    cases hx
    rfl

theorem DecidedBy.congr {x : Act α} {room' : Prop} (h : DecidedBy x c room)
    (hiff : room ↔ room') : DecidedBy x c room' :=
  ⟨fun hr => h.succeeds (hiff.mpr hr), fun hr => h.refuses fun hr' => hr (hiff.mp hr')⟩

theorem decided_ensureRoom {x : Act α} {more : Prop}
    (h : c.HasRoom touched → DecidedBy x c more) :
    DecidedBy ((ensureRoom touched).act >>= fun _ => x) c (c.HasRoom touched ∧ more) where
  succeeds := by
    rintro ⟨hroom, hmore⟩
    have hcheck : (ensureRoom touched).act c = .ok () c := by
      simp only [Change.act, ensureRoom_eq, if_pos hroom]
    obtain ⟨a, c', hx⟩ := (h hroom).succeeds hmore
    exact ⟨a, c', (bind_of_ok hcheck _).trans hx⟩
  refuses hn := by
    by_cases hroom : c.HasRoom touched
    · have hcheck : (ensureRoom touched).act c = .ok () c := by
        simp only [Change.act, ensureRoom_eq, if_pos hroom]
      obtain ⟨count, hx⟩ := (h hroom).refuses fun hmore => hn ⟨hroom, hmore⟩
      exact ⟨count, (bind_of_ok hcheck _).trans hx⟩
    · have hcheck : (ensureRoom touched).act c = .error (.limit (.entityCount
          (c.nodeCount + (c.absent touched).card) c.axioms.limits.entities)) c := by
        simp only [Change.act, ensureRoom_eq, if_neg hroom]
      exact ⟨_, bind_of_error hcheck _⟩

theorem decided_of_settles {x : Act α} (hx : Settles touched x) (hroom : c.HasRoom touched) :
    DecidedBy x c True where
  succeeds _ := by
    obtain ⟨a, c', h, _⟩ := hx c hroom
    exact ⟨a, c', h⟩
  refuses hn := absurd trivial hn

theorem decided_addEntity {x : Act α} (hx : Settles touched x) (hroom : c.HasRoom touched)
    {name : String} (hname : name ∈ touched) (attrs : Attributes) :
    DecidedBy (discard (addEntity name attrs).act >>= fun _ => x) c
      (c.nodeCount + 1 ≤ c.axioms.limits.entities) where
  succeeds room := by
    have hadd : (addEntity name attrs).act c = .ok name (c.withEntity name attrs) := by
      simp only [Change.act, addEntity_of_room room]
    have hdiscard : discard (addEntity name attrs).act c = .ok () (c.withEntity name attrs) :=
      bind_of_ok hadd _
    obtain ⟨a, c', h, _⟩ := hx _ (hroom.withEntity hname attrs)
    exact ⟨a, c', (bind_of_ok hdiscard _).trans h⟩
  refuses hn := by
    have hadd : (addEntity name attrs).act c =
        .error (.limit (.entityCount (c.nodeCount + 1) c.axioms.limits.entities)) c := by
      simp only [Change.act, addEntity, Limits.checkEntities, if_pos (Nat.lt_of_not_le hn)]
    have hdiscard : discard (addEntity name attrs).act c =
        .error (.limit (.entityCount (c.nodeCount + 1) c.axioms.limits.entities)) c :=
      bind_of_error hadd _
    exact ⟨_, bind_of_error hdiscard _⟩

end decisions

namespace Call

variable {call : Call} {names : List String} {c : Context}

theorem requireOperands_cases (call : Call) (least : Nat) (c : Context) :
    least ≤ call.args.length ∧ call.requireOperands least c = .ok () c ∨
      ∃ e, call.requireOperands least c = .error e c := by
  by_cases h : call.args.length < least
  · rw [requireOperands, if_pos h]
    exact Or.inr ⟨_, rfl⟩
  · rw [requireOperands, if_neg h]
    exact Or.inl ⟨Nat.le_of_not_lt h, rfl⟩

theorem ok_of_nameOf {v : Value} {name : String} {t : Context}
    (h : call.nameOf v c = .ok name t) : v.name? = some name ∧ t = c := by
  rw [nameOf] at h
  cases hv : v.name? with
  | none =>
      rw [hv] at h
      cases h
  | some other =>
      rw [hv] at h
      cases h
      exact ⟨rfl, rfl⟩

theorem namesOf_of_names {vs : List Value} (h : vs.map Value.name? = names.map some)
    (c : Context) : call.namesOf vs c = .ok names c := by
  induction vs generalizing names with
  | nil =>
      obtain rfl := List.map_eq_nil_iff.mp h.symm
      rfl
  | cons v vs ih =>
      cases names with
      | nil => cases h
      | cons name names =>
          obtain ⟨hv, hvs⟩ := List.cons.inj h
          have hname : call.nameOf v c = .ok name c := by
            simp only [nameOf, hv]
            rfl
          rw [namesOf, bind_of_ok hname, bind_of_ok (ih hvs)]
          rfl

theorem namesOf_cases (call : Call) (vs : List Value) (c : Context) :
    (∃ names : List String, vs.map Value.name? = names.map some) ∨
      ∃ e, call.namesOf vs c = .error e c := by
  induction vs with
  | nil => exact Or.inl ⟨[], rfl⟩
  | cons v vs ih =>
      cases hv : v.name? with
      | none =>
          have hname : call.nameOf v c = .error (.unnamed call.symbol v.display) c := by
            simp only [nameOf, hv]
            rfl
          exact Or.inr ⟨_, bind_of_error hname _⟩
      | some name =>
          have hname : call.nameOf v c = .ok name c := by
            simp only [nameOf, hv]
            rfl
          rcases ih with ⟨names, hvs⟩ | ⟨e, he⟩
          · exact Or.inl ⟨name :: names, by simp [hv, hvs]⟩
          · refine Or.inr ⟨e, ?_⟩
            rw [namesOf, bind_of_ok hname, bind_of_error he]

def synthesis (call : Call) (components : List String) : Attributes :=
  (call.attributes ["name"]).insert "type" (.str "synthesis")
    |>.insert "components" (.list (components.map .str))

def relate (call : Call) (names : List String) : Operator → Act Value
  | .lambda => do
      (ensureRoom names).act
      let kind := (call.keywordName? "type").getD Relation.defaultKind
      let ids ← (chain kind (call.attributes ["type"]) names).act
      return .oneOrMany ids
  | .sigma => do
      let name := (call.keywordName? "name").getD (synthesisName names)
      let attrs := (call.attributes ["name"]).insert "type" (.str "synthesis")
        |>.insert "components" (.list (names.map .str))
      (ensureRoom (names ++ [name])).act
      discard (addEntity name attrs).act
      (gather "Σ" name names).act
      return .str name
  | _ => do
      match names with
      | [] => return .nil
      | target :: sources =>
          (ensureRoom (sources ++ [target])).act
          discard (Context.enrich target (call.attributes [])).act
          (gather "∇" target sources).act
          return .str target

theorem perform_eq_relate (call : Call) {op : Operator} {least : Nat} (hop : Relating op least) :
    call.perform op = (do
      call.requireOperands least
      let names ← call.namesOf call.args
      call.relate names op) := by
  cases hop <;> rfl

theorem perform_of_names {op : Operator} {least : Nat} (hop : Relating op least)
    (hargs : least ≤ call.args.length) (hnames : call.args.map Value.name? = names.map some)
    (c : Context) : call.perform op c = call.relate names op c := by
  rcases call.requireOperands_cases least c with ⟨_, hr⟩ | ⟨e, hr⟩
  · rw [perform_eq_relate call hop, bind_of_ok hr, bind_of_ok (namesOf_of_names hnames c)]
  · rw [requireOperands, if_neg (Nat.not_lt.mpr hargs)] at hr
    cases hr

theorem perform_cases (call : Call) {op : Operator} {least : Nat} (hop : Relating op least)
    (c : Context) :
    (∃ names : List String, least ≤ call.args.length ∧
      call.args.map Value.name? = names.map some) ∨ ∃ e, call.perform op c = .error e c := by
  rw [perform_eq_relate call hop]
  rcases call.requireOperands_cases least c with ⟨hargs, hr⟩ | ⟨e, hr⟩
  · rcases call.namesOf_cases call.args c with ⟨names, hnames⟩ | ⟨e, hn⟩
    · exact Or.inl ⟨names, hargs, hnames⟩
    · exact Or.inr ⟨e, by rw [bind_of_ok hr, bind_of_error hn]⟩
  · exact Or.inr ⟨e, bind_of_error hr _⟩

def touched (call : Call) (names : List String) : Operator → List String
  | .sigma => names ++ [(call.keywordName? "name").getD (synthesisName names)]
  | _ => names

theorem settles_nabla (call : Call) (target : String) (sources : List String) :
    Settles (sources ++ [target]) (do
      discard (Context.enrich target (call.attributes [])).act
      (gather "∇" target sources).act
      return .str target : Act Value) := by
  have ht : target ∈ sources ++ [target] := by simp
  refine settles_bind (settles_discard (settles_act (settles_enrich ht _))) fun _ => ?_
  exact settles_bind (settles_act (settles_gather "∇" ht (List.subset_append_left _ _)))
    fun _ => settles_pure _

theorem decided_relate {op : Operator} {least : Nat} (hop : Relating op least) :
    DecidedBy (call.relate names op) c
      (c.HasRoom (call.touched names op) ∧
        (op = .sigma → c.nodeCount + 1 ≤ c.axioms.limits.entities)) := by
  cases hop with
  | lambda =>
      refine (decided_ensureRoom (decided_of_settles ?_)).congr (by simp [touched])
      exact settles_bind (settles_act (settles_chain _ _ (List.Subset.refl names)))
        fun _ => settles_pure _
  | sigma =>
      refine (decided_ensureRoom fun hroom => decided_addEntity ?_ hroom (by simp) _).congr
        (by simp [touched])
      exact settles_bind (settles_act (settles_gather "Σ" (by simp) (by simp)))
        fun _ => settles_pure _
  | nabla =>
      cases names with
      | nil =>
          have hroom : c.HasRoom [] := Or.inl (by simp [absent])
          exact ⟨fun _ => ⟨_, c, rfl⟩, fun hn => absurd ⟨hroom, by simp⟩ hn⟩
      | cons target sources =>
          refine (decided_ensureRoom (decided_of_settles
            (settles_nabla call target sources))).congr ?_
          -- The target is asked for after its sources, which makes no difference to the room.
          have hiff : c.HasRoom (sources ++ [target]) ↔ c.HasRoom (target :: sources) :=
            ⟨fun h => h.mono (by simp), fun h => h.mono (by simp)⟩
          simp [touched, hiff]

theorem decided_perform {op : Operator} {least : Nat} (hop : Relating op least)
    (hargs : least ≤ call.args.length) (hnames : call.args.map Value.name? = names.map some) :
    DecidedBy (call.perform op) c
      (c.HasRoom (call.touched names op) ∧
        (op = .sigma → c.nodeCount + 1 ≤ c.axioms.limits.entities)) := by
  have hrelate : DecidedBy (call.relate names op) c _ := decided_relate hop
  have heq := perform_of_names hop hargs hnames c
  exact ⟨fun hroom => heq ▸ hrelate.succeeds hroom, fun hn => heq ▸ hrelate.refuses hn⟩

theorem limit_iff_no_room {op : Operator} {least : Nat} (hop : Relating op least)
    (hargs : least ≤ call.args.length) (hnames : call.args.map Value.name? = names.map some)
    (c : Context) :
    ((∃ count max c', call.perform op c = .error (.limit (.entityCount count max)) c') ↔
      (∃ e c', ensureRoom (call.touched names op) c = .error e c') ∨
        op = .sigma ∧ c.axioms.limits.entities < c.nodeCount + 1) ∧
    ((∃ e c', ensureRoom (call.touched names op) c = .error e c') ↔
      (c.absent (call.touched names op)).Nonempty ∧
        c.axioms.limits.entities < c.nodeCount + (c.absent (call.touched names op)).card) ∧
    (c.absent (call.touched names op) = ∅ →
      (op = .sigma → c.nodeCount < c.axioms.limits.entities) →
        ∃ v c', call.perform op c = .ok v c') := by
  have hdecided : DecidedBy (call.perform op) c _ := decided_perform hop hargs hnames
  refine ⟨?_, ensureRoom_fails_iff.trans not_hasRoom_iff, ?_⟩
  · rw [hdecided.limit_iff, ensureRoom_fails_iff, not_and_or, Classical.not_imp, Nat.not_le]
  · intro habsent hsigma
    exact hdecided.succeeds ⟨Or.inl habsent, hsigma⟩

theorem six_le_nodeCount_of_create {name : String} {axioms : Axioms} {now : Nat}
    (h : create name axioms now = .ok c) : 6 ≤ c.nodeCount := by
  have hcard : (Operator.all.map Operator.glyph).toFinset.card = 6 := by decide
  rw [← card_population, population_of_create h, hcard]

theorem absent_of_create {name : String} {axioms : Axioms} {now : Nat}
    (h : create name axioms now = .ok c) {ops : List Operator} {touched : List String}
    (ht : touched = ops.map Operator.glyph) : c.absent touched = ∅ := by
  rw [absent, Finset.sdiff_eq_empty_iff_subset, ht, population_of_create h]
  intro glyph hglyph
  obtain ⟨op, _, rfl⟩ := List.mem_map.mp (List.mem_toFinset.mp hglyph)
  exact List.mem_toFinset.mpr (List.mem_map_of_mem op.mem_all)

def full : Axioms := ⟨{ entities := 6 }, [], {}, {}⟩

def reconnection : Call := ⟨"Λ", 1, [.str "Α", .str "Λ"], {}, []⟩

theorem full_context_allows_reconnection : ∃ c, create "full" full 0 = .ok c ∧
    2 ≤ reconnection.args.length ∧
    reconnection.args.map Value.name? = ["Α", "Λ"].map some ∧
    ∃ v c', reconnection.perform .lambda c = .ok v c' := by
  obtain ⟨c, hc⟩ := create_of_room "full" 0 (show 6 ≤ full.limits.entities by decide)
  have habsent : c.absent ["Α", "Λ"] = ∅ :=
    absent_of_create hc (show ["Α", "Λ"] = [Operator.alpha, .lambda].map Operator.glyph from rfl)
  obtain ⟨_, _, hok⟩ := limit_iff_no_room .lambda
    (show 2 ≤ reconnection.args.length by decide)
    (show reconnection.args.map Value.name? = ["Α", "Λ"].map some from rfl) c
  exact ⟨c, hc, by decide, rfl, hok habsent (by simp)⟩

def resynthesis : Call := ⟨"Σ", 1, [.str "Α", .str "Λ"], ⟨[("name", .str "Σ")]⟩, []⟩

theorem resynthesis_refused (h : create "full" full 0 = .ok c) :
    ∃ count max c', resynthesis.perform .sigma c = .error (.limit (.entityCount count max)) c' := by
  have hlimit : c.axioms.limits.entities = 6 := by rw [(reaches_of_create h).frame.2.2]; rfl
  have hcount := six_le_nodeCount_of_create h
  have hdecided : DecidedBy (resynthesis.perform .sigma) c _ :=
    decided_perform .sigma (show 2 ≤ resynthesis.args.length by decide)
      (show resynthesis.args.map Value.name? = ["Α", "Λ"].map some from rfl)
  refine hdecided.limit_iff.mpr ?_
  rintro ⟨_, hmore⟩
  have := hmore rfl
  omega

theorem full_context_refuses_resynthesis : ∃ c, create "full" full 0 = .ok c ∧
    2 ≤ resynthesis.args.length ∧
    resynthesis.args.map Value.name? = ["Α", "Λ"].map some ∧
    c.absent (resynthesis.touched ["Α", "Λ"] .sigma) = ∅ ∧
    ensureRoom (resynthesis.touched ["Α", "Λ"] .sigma) c = .ok () c ∧
    ∃ count max c', resynthesis.perform .sigma c = .error (.limit (.entityCount count max)) c' := by
  obtain ⟨c, hc⟩ := create_of_room "full" 0 (show 6 ≤ full.limits.entities by decide)
  have habsent : c.absent (resynthesis.touched ["Α", "Λ"] .sigma) = ∅ :=
    absent_of_create hc (show resynthesis.touched ["Α", "Λ"] .sigma =
      [Operator.alpha, .lambda, .sigma].map Operator.glyph from rfl)
  have hroom : c.HasRoom (resynthesis.touched ["Α", "Λ"] .sigma) := Or.inl habsent
  refine ⟨c, hc, by decide, rfl, habsent, ?_, resynthesis_refused hc⟩
  rw [ensureRoom_eq, if_pos hroom]

end Call

end GestureGraph
