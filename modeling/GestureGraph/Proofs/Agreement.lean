import GestureGraph.Proofs.Results
import GestureGraph.Proofs.Spelling
import GestureGraph.Session

namespace GestureGraph

namespace Comparison

def repeats (S : Context → Context → Prop) (hS : Steady S fun _ => False) : Comparison where
  __ := spellings S hS
  heads := Eq
  exprs := Eq
  head_refl _ := rfl
  form h := Value.form_of_eq h
  malformed h := Value.malformed_of_eq h
  atom h _ := h.symm

theorem parallelActs_self {α : Type} (a : Act α) : (repeats Eq steady_eq).ParallelActs a a := by
  rintro c _ rfl
  refine Or.inr ((alike_refl (a c)).mono (fun e e' he => ?_) fun _ _ hc => hc)
  exact he ▸ .same e

theorem registries_self (r : Registry) : (repeats Eq steady_eq).Registries r r := by
  rintro symbol _ rfl
  cases hg : r.get? symbol with
  | none => exact .none symbol
  | some g =>
      cases hb : g.behavior with
      | builtIn => exact .some ⟨rfl, rfl, hb, hb⟩
      | custom act =>
          exact .own ⟨fun h => h.symm, rfl, rfl, act, hb, hb,
            Or.inr fun call => parallelActs_self (act call)⟩

theorem twin_self (m : Machine) (n : Nat) :
    (repeats Eq steady_eq).Twin m { m with cycles := n } where
  context := rfl
  depth := rfl
  gestures := registries_self m.gestures
  recovery := Or.inr ⟨rfl, fun f _ e intentions => parallelActs_self (f e intentions)⟩

variable {S : Context → Context → Prop} {hS : Steady S fun _ => False} {m m' : Machine}

theorem twin_of_plain (hm : m.Plain) (hc : S m.context m'.context) (hd : m'.depth = m.depth)
    (hg : m'.gestures = m.gestures) (hr : m'.recovery = m.recovery) : (repeats S hS).Twin m m' where
  context := hc
  depth := hd
  gestures := by
    rw [hg]
    exact .of_isBuiltIn (fun h => h) hm.gestures
  recovery := Or.inr ⟨hr, fun f hf => by rw [hm.recovery] at hf; cases hf⟩

theorem outcomes_of_twin (h : (repeats S hS).Twin m m') (requests : List Request) :
    Machine.outcomes requests m' = Machine.outcomes requests m ∧
      S (Machine.run requests m).context (Machine.run requests m').context := by
  have hrequests : (repeats S hS).Requests requests requests :=
    List.forall₂_same.mpr fun _ _ => ⟨rfl, rfl⟩
  rcases twin_requests hrequests h with ⟨_, _, hs⟩ | ⟨hagree, hend, _⟩
  · exact hs.elim
  · have heq := hagree.imp fun _ _ ho => ho.eq (fun h => h) fun h => h
    exact ⟨(List.forall₂_eq_eq_eq ▸ heq).symm, hend.context⟩

end Comparison

namespace Program

def requests (program : Program) : List Request :=
  program.expressions.map (Request.mk program.intentions)

theorem read_of_origin {axioms : Axioms} {origin source : String} {program : Program}
    (h : read axioms origin source = .ok program) (origin' : String) :
    read axioms origin' source = .ok program := by
  obtain ⟨hphrases, tokens, hscan, hparse⟩ := read_eq_ok_iff.mp h
  obtain ⟨ps, hread, rfl⟩ := Token.read_of_scan hscan
  exact read_eq_ok_iff.mpr ⟨hphrases, _, Token.scan_of_read hread, hparse⟩

end Program

namespace Machine

theorem length_outcomes (requests : List Request) (m : Machine) :
    (outcomes requests m).length = requests.length := by
  induction requests generalizing m with
  | nil => rfl
  | cons r rest ih => rw [outcomes, List.length_cons, List.length_cons, ih]

theorem getElem?_outcomes (requests : List Request) (m : Machine) (i : Nat) :
    (outcomes requests m)[i]? = requests[i]?.map fun r =>
      outcome (evaluate r.intentions r.expr (run (requests.take i) m)) := by
  induction requests generalizing m i with
  | nil => rfl
  | cons r rest ih =>
      cases i with
      | zero => rfl
      | succ i => exact ih _ i

def atTime (now : Nat) (m : Machine) : Machine :=
  { m with context := { m.context with now := now } }

structure Tells (program : Program) (m : Machine) (cycle : Cycle) (m' : Machine) : Prop where
  length : cycle.results.length = program.expressions.length
  result : ∀ i expr, program.expressions[i]? = some expr → cycle.results[i]? =
    some (settled (outcome (evaluate program.intentions expr (run (program.requests.take i) m))))
  evaluated : cycle.evaluated = program.expressions.length
  context : m'.context = (run program.requests m).context.sampled

theorem tells_runProgram (program : Program) (options : CycleOptions) (m : Machine) :
    Tells program (m.prepare options) (m.runProgram program options).1
      (m.runProgram program options).2 := by
  have hall := evaluateAll_eq program.intentions program.expressions (m.prepare options)
  have hresults : (m.runProgram program options).1.results =
      (outcomes program.requests (m.prepare options)).map settled := congrArg Prod.fst hall
  refine ⟨?_, fun i expr hexpr => ?_, rfl, congrArg (·.2.context.sampled) hall⟩
  · rw [hresults, List.length_map, length_outcomes, Program.requests, List.length_map]
  · rw [hresults, List.getElem?_map, getElem?_outcomes, Program.requests, List.getElem?_map, hexpr]
    rfl

theorem successful_runProgram {m : Machine} (hm : m.Plain) {axioms : Axioms}
    {origin source : String} {program : Program}
    (h : Program.read axioms origin source = .ok program) (options : CycleOptions) :
    (m.runProgram program options).1.successful =
      (outcomes program.requests (m.prepare options)).countP Except.isOk := by
  have hall := evaluateAll_eq program.intentions program.expressions (m.prepare options)
  have hsound : ∀ r ∈ program.requests, r.expr.Sound := by
    intro r hr
    obtain ⟨expr, hexpr, rfl⟩ := List.mem_map.mp hr
    exact Program.sound_of_read h expr hexpr
  have hprepared : (m.prepare options).Plain := ⟨hm.gestures, hm.recovery⟩
  rw [← length_filter_settled hsound hprepared]
  exact congrArg (fun results => (results.1.filter fun v => !v.isFailed).length) hall

end Machine

namespace Session

open Machine

variable {intentions : List String} {exprs : List Value} {m : Machine}

theorem eq_ok_of_outcome {r : EStateM.Result EvalError Machine Value} {v : Value}
    (h : outcome r = .ok v) : r = .ok v (after r) := by
  cases r with
  | ok _ _ =>
      cases h
      rfl
  | error _ _ => cases h

theorem eq_error_of_outcome {r : EStateM.Result EvalError Machine Value} {e : EvalError}
    (h : outcome r = .error e) : r = .error e (after r) := by
  cases r with
  | ok _ _ => cases h
  | error _ _ =>
      cases h
      rfl

theorem evaluateEach_of_ok {values : List Value}
    (h : outcomes (exprs.map (Request.mk intentions)) m = values.map .ok) :
    evaluateEach intentions exprs m = .ok values (run (exprs.map (Request.mk intentions)) m) := by
  induction exprs generalizing m values with
  | nil =>
      rw [List.map_eq_nil_iff.mp h.symm]
      rfl
  | cons expr rest ih =>
      cases values with
      | nil => cases h
      | cons v values =>
          obtain ⟨hv, hrest⟩ := List.cons.inj h
          rw [evaluateEach, bind_of_ok (eq_ok_of_outcome hv), bind_of_ok (ih hrest)]
          rfl

theorem evaluateEach_of_error {k : Nat} {values : List Value} {e : EvalError}
    (hbefore : (outcomes (exprs.map (Request.mk intentions)) m).take k = values.map .ok)
    (h : (outcomes (exprs.map (Request.mk intentions)) m)[k]? = some (.error e)) :
    evaluateEach intentions exprs m =
      .error e (run ((exprs.map (Request.mk intentions)).take (k + 1)) m) := by
  induction exprs generalizing m values k with
  | nil => cases h
  | cons expr rest ih =>
      cases k with
      | zero =>
          have he := eq_error_of_outcome (Option.some.inj h)
          rw [evaluateEach, bind_of_error he]
          rfl
      | succ k =>
          cases values with
          | nil => cases hbefore
          | cons v values =>
              obtain ⟨hv, hrest⟩ := List.cons.inj hbefore
              rw [evaluateEach, bind_of_ok (eq_ok_of_outcome hv), bind_of_error (ih hrest h)]
              rfl

variable {s : Session} {source : String} {program : Program}

theorem process_of_ok
    (hread : Program.read s.machine.context.axioms "<repl>" source = .ok program)
    (hne : program.expressions ≠ []) {values : List Value}
    (h : outcomes program.requests s.machine = values.map .ok) :
    process source s =
      .ok (some ⟨source, (Value.oneOrMany values).display,
          (run program.requests s.machine).context.measure, program.intentions⟩)
        { s with
          machine := { run program.requests s.machine with
            context := (run program.requests s.machine).context.sampled }
          history := s.history ++ [⟨source, (Value.oneOrMany values).display,
            (run program.requests s.machine).context.measure, program.intentions⟩] } := by
  have heach := evaluateEach_of_ok h
  have hsome : program.expressions.isEmpty = false := List.isEmpty_eq_false_iff.mpr hne
  simp only [process, hread, hsome, heach]
  rfl

theorem process_of_error
    (hread : Program.read s.machine.context.axioms "<repl>" source = .ok program) {k : Nat}
    {values : List Value} {e : EvalError}
    (hbefore : (outcomes program.requests s.machine).take k = values.map .ok)
    (h : (outcomes program.requests s.machine)[k]? = some (.error e)) :
    process source s =
      .error (.eval e) { s with machine := run (program.requests.take (k + 1)) s.machine } := by
  have heach := evaluateEach_of_error hbefore h
  have hsome : program.expressions.isEmpty = false := by
    refine List.isEmpty_eq_false_iff.mpr fun hnil => ?_
    rw [Program.requests, hnil] at h
    cases h
  simp only [process, hread, hsome, heach]
  rfl

/-- What a session makes of an input none of whose expressions fails: one more entry, and the
context that a cycle of the input leaves. -/
structure Agrees (s : Session) (source : String) (values : List Value) (entry : Entry)
    (s' : Session) : Prop where
  history : s'.history = s.history ++ [entry]
  input : entry.input = source
  result : entry.result = (Value.oneOrMany values).display
  cycle : ∃ cycle m, s.machine.runSource source {} = .ok (cycle, m) ∧ cycle.results = values ∧
    m.context = s'.machine.context
  retimed : s.machine.Plain → ∀ now, ∃ cycle m,
    (s.machine.atTime now).runSource source {} = .ok (cycle, m) ∧ cycle.results = values ∧
      s'.machine.context.SameButTimes m.context

theorem runSource_of_read (m : Machine) {origin : String}
    (hread : Program.read m.context.axioms origin source = .ok program) (options : CycleOptions) :
    m.runSource source options = .ok (m.runProgram program options) := by
  rw [Machine.runSource, Program.read_of_origin hread]
  rfl

theorem runProgram_of_twin {S : Context → Context → Prop} {hS : Steady S fun _ => False}
    {m' : Machine} (h : (Comparison.repeats S hS).Twin m (m'.prepare {})) {values : List Value}
    (hvalues : outcomes program.requests m = values.map .ok) :
    (m'.runProgram program {}).1.results = values ∧
      ∃ c, S (run program.requests m).context c ∧
        (m'.runProgram program {}).2.context = c.sampled := by
  obtain ⟨houtcomes, hcontext⟩ := Comparison.outcomes_of_twin h program.requests
  have hall := evaluateAll_eq program.intentions program.expressions (m'.prepare {})
  refine ⟨(congrArg Prod.fst hall).trans ?_, _, hcontext, congrArg (·.2.context.sampled) hall⟩
  have hsettled : (values.map Except.ok).map settled = values := by
    rw [List.map_map]
    exact List.map_id' _
  exact (congrArg (List.map settled) (houtcomes.trans hvalues)).trans hsettled

theorem agrees_of_process
    (hread : Program.read s.machine.context.axioms "<repl>" source = .ok program)
    (hne : program.expressions ≠ []) {values : List Value}
    (h : outcomes program.requests s.machine = values.map .ok) :
    ∃ entry s', process source s = .ok (some entry) s' ∧ s.Agrees source values entry s' := by
  refine ⟨_, _, process_of_ok hread hne h, rfl, rfl, rfl, ?_, fun hplain now => ?_⟩
  · obtain ⟨hresults, c, hc, hcontext⟩ :=
      runProgram_of_twin (Comparison.twin_self s.machine (s.machine.cycles + 1)) h
    refine ⟨_, _, runSource_of_read s.machine hread {}, hresults, hcontext.trans ?_⟩
    rw [← hc]
  · have htwin : (Comparison.repeats Context.SameButTimes steady_sameButTimes).Twin s.machine
        ((s.machine.atTime now).prepare {}) :=
      Comparison.twin_of_plain hplain ⟨rfl, rfl⟩ rfl rfl rfl
    obtain ⟨hresults, c, hc, hcontext⟩ := runProgram_of_twin htwin h
    refine ⟨_, _, runSource_of_read (s.machine.atTime now) hread {}, hresults, ?_⟩
    have hend := hc.change Context.essential_sampled
    rwa [← hcontext] at hend

def plainSession : Session where
  machine := { context := Context.bare "talk" ⟨{}, [], {}, {}⟩ 0 }
  exportDir := "cycles"

def shortSource : String := "(Omega a) b"

def shortProgram : Program := ⟨[.list [.str "Omega", .str "a"], .str "b"], []⟩

def mixedSource : String := "b (Alpha (Omega)) c"

def mixedProgram : Program :=
  ⟨[.str "b", .list [.str "Alpha", .list [.str "Omega"]], .str "c"], []⟩

theorem read_shortSource :
    Program.read ⟨{}, [], {}, {}⟩ "<repl>" shortSource = .ok shortProgram := by
  have hread : Piece.Read shortSource.toList [⟨.token .openParen (.str "("), ['(']⟩,
      ⟨.token .symbol (.str "Omega"), ['O', 'm', 'e', 'g', 'a']⟩, ⟨.blank, [' ']⟩,
      ⟨.token .symbol (.str "a"), ['a']⟩, ⟨.token .closeParen (.str ")"), [')']⟩, ⟨.blank, [' ']⟩,
      ⟨.token .symbol (.str "b"), ['b']⟩] [] := by
    iterate 7 refine .cut rfl ?_
    exact .done []
  exact Program.read_eq_ok_iff.mpr ⟨rfl, _, Token.scan_of_read hread, _, rfl, rfl⟩

theorem read_mixedSource :
    Program.read ⟨{}, [], {}, {}⟩ "<repl>" mixedSource = .ok mixedProgram := by
  have hread : Piece.Read mixedSource.toList [⟨.token .symbol (.str "b"), ['b']⟩, ⟨.blank, [' ']⟩,
      ⟨.token .openParen (.str "("), ['(']⟩,
      ⟨.token .symbol (.str "Alpha"), ['A', 'l', 'p', 'h', 'a']⟩, ⟨.blank, [' ']⟩,
      ⟨.token .openParen (.str "("), ['(']⟩,
      ⟨.token .symbol (.str "Omega"), ['O', 'm', 'e', 'g', 'a']⟩,
      ⟨.token .closeParen (.str ")"), [')']⟩, ⟨.token .closeParen (.str ")"), [')']⟩,
      ⟨.blank, [' ']⟩, ⟨.token .symbol (.str "c"), ['c']⟩] [] := by
    iterate 11 refine .cut rfl ?_
    exact .done []
  exact Program.read_eq_ok_iff.mpr ⟨rfl, _, Token.scan_of_read hread, _, rfl, rfl⟩

end Session

end GestureGraph
