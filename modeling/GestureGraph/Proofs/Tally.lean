import GestureGraph.Proofs.Spelling
import Mathlib.Algebra.GroupWithZero.Nat

namespace GestureGraph

namespace Table

variable {κ α : Type} [Ord κ]

theorem sum_insertEntry {f : α → Nat} {key : κ} {a : α} (b : α) {l : List (κ × α)}
    (hl : l.Pairwise fun a b => compare a.1 b.1 = .lt) [Std.TransOrd κ]
    (h : lookupEntry key l = some a) :
    ((insertEntry key b l).map fun e => f e.2).sum + f a = (l.map fun e => f e.2).sum + f b := by
  induction l with
  | nil => cases h
  | cons e rest ih =>
      obtain ⟨k, c⟩ := e
      obtain ⟨hfirst, hrest⟩ := List.pairwise_cons.mp hl
      rw [lookupEntry] at h
      rw [insertEntry]
      cases hc : compare key k with
      | lt =>
          -- Keys ascend: below the first of them there is none.
          have hnone : lookupEntry key rest = none := lookupEntry_eq_none_of_lt fun e he =>
            Std.TransCmp.lt_trans hc (hfirst e he)
          simp [hc, hnone] at h
      | eq =>
          obtain rfl : c = a := by simpa [hc] using h
          simp only [List.map_cons, List.sum_cons]
          omega
      | gt =>
          have hsum := ih hrest (by simpa [hc] using h)
          simp only [List.map_cons, List.sum_cons]
          omega

end Table

namespace Registry

def callsUnder (r : Registry) (symbol : String) : Nat :=
  ((r.get? symbol).map (·.calls)).getD 0

def totalCalls (r : Registry) : Nat := (r.values.map (·.calls)).sum

def countAll (r : Registry) (called : List String) : Registry := called.foldl count r

theorem countAll_append (r : Registry) (called more : List String) :
    r.countAll (called ++ more) = (r.countAll called).countAll more := List.foldl_append

theorem get?_countAll (r : Registry) (called : List String) (symbol : String) :
    (r.countAll called).get? symbol =
      (r.get? symbol).map fun g => { g with calls := g.calls + called.count symbol } := by
  induction called generalizing r with
  | nil => simp [countAll]
  | cons s rest ih =>
      show ((r.count s).countAll rest).get? symbol = _
      rw [ih, get?_count, List.count_cons]
      by_cases hs : symbol = s
      · subst hs
        cases r.get? symbol <;> simp [Nat.add_comm, Nat.add_left_comm]
      · have hne : ¬ s = symbol := fun h => hs h.symm
        simp [hs, hne]

theorem callsUnder_countAll {r : Registry} {symbol : String} (h : r.contains symbol = true)
    (called : List String) :
    (r.countAll called).callsUnder symbol = r.callsUnder symbol + called.count symbol := by
  obtain ⟨g, hg⟩ := Option.isSome_iff_exists.mp h
  simp [callsUnder, get?_countAll, hg]

theorem totalCalls_count_le (r : Registry) (symbol : String) :
    (r.count symbol).totalCalls ≤ r.totalCalls + 1 := by
  rw [count, Table.modify]
  cases hg : r.get? symbol with
  | none => exact Nat.le_succ _
  | some g =>
      have hsum := Table.sum_insertEntry (f := Gesture.calls) { g with calls := g.calls + 1 }
        r.ascending hg
      simp only [totalCalls, Table.values, List.map_map, Function.comp_def]
      simp only [Table.insert] at hsum ⊢
      omega

theorem totalCalls_countAll_le (r : Registry) (called : List String) :
    (r.countAll called).totalCalls ≤ r.totalCalls + called.length := by
  induction called generalizing r with
  | nil => exact Nat.le_refl _
  | cons s rest ih =>
      have hfirst := r.totalCalls_count_le s
      have hrest := ih (r.count s)
      show ((r.count s).countAll rest).totalCalls ≤ _
      rw [List.length_cons]
      omega

def Orderly (r : Registry) : Prop :=
  ∀ symbol g, r.get? symbol = some g → g.symbol = symbol ∧ g.behavior = .builtIn

theorem Orderly.register {r : Registry} (h : r.Orderly) {g : Gesture}
    (hg : g.behavior = .builtIn) : (r.register g).Orderly := by
  intro symbol g' hg'
  rw [Registry.register, Table.get?_insert_eq] at hg'
  split at hg'
  · rename_i hsymbol
    cases hg'
    exact ⟨hsymbol.symm, hg⟩
  · exact h symbol g' hg'

theorem orderly_builtIn : builtIn.Orderly := by
  refine List.foldlRecOn (motive := Orderly) Operator.all _ ?_ ?_
  · nofun
  · intro r hr op _
    exact (hr.register rfl).register rfl

theorem IsStandard.orderly {r : Registry} (h : r.IsStandard) : r.Orderly := by
  intro symbol g hg
  have hstandard := h symbol
  rw [hg, Option.map_some] at hstandard
  exact orderly_builtIn symbol { g with calls := 0 } hstandard.symm

def Before (r r' : Registry) : Prop := ∃ called, r' = r.countAll called

namespace Before

variable {r r' : Registry} {symbol : String}

theorem refl (r : Registry) : r.Before r := ⟨[], rfl⟩

theorem countAll (h : r.Before r') (called : List String) : r.Before (r'.countAll called) := by
  obtain ⟨earlier, rfl⟩ := h
  exact ⟨earlier ++ called, (countAll_append r earlier called).symm⟩

theorem contains_of_none (h : r.Before r') (hg : r'.get? symbol = none) :
    r.contains symbol = false := by
  obtain ⟨called, rfl⟩ := h
  rw [get?_countAll, Option.map_eq_none_iff] at hg
  rw [Table.contains, hg, Option.isSome_none]

theorem contains_of_some (h : r.Before r') {g : Gesture} (hg : r'.get? symbol = some g) :
    r.contains symbol = true := by
  obtain ⟨called, rfl⟩ := h
  rw [get?_countAll, Option.map_eq_some_iff] at hg
  obtain ⟨g', hg', _⟩ := hg
  rw [Table.contains, hg', Option.isSome_some]

theorem orderly (h : r.Before r') (hr : r.Orderly) : r'.Orderly := by
  intro symbol g hg
  obtain ⟨called, rfl⟩ := h
  rw [get?_countAll, Option.map_eq_some_iff] at hg
  obtain ⟨g', hg', rfl⟩ := hg
  exact hr symbol g' hg'

end Before

theorem Orderly.alpha {r : Registry} (h : r.Orderly) :
    r.alpha.symbol = Operator.alpha.glyph := by
  rw [Registry.alpha]
  cases hg : r.get? Operator.alpha.glyph with
  | none => rfl
  | some g => exact (h _ g hg).1

end Registry

namespace Happening

def called? : Happening → Option String
  | .called g => some g.symbol
  | _ => none

def recovered? : Happening → Option LimitError
  | .limited e => some e
  | _ => none

@[simp] theorem called?_ofResult {σ α : Type} (what : Move) (r : EStateM.Result EvalError σ α) :
    (ofResult what r).called? = none := by
  cases r <;> rfl

end Happening

def calledIn (trail : List Moment) : List String := trail.filterMap (·.happening.called?)

def recoveredIn (trail : List Moment) : List LimitError :=
  trail.filterMap (·.happening.recovered?)

theorem calledIn_append (trail more : List Moment) :
    calledIn (trail ++ more) = calledIn trail ++ calledIn more := List.filterMap_append

theorem recoveredIn_append (trail more : List Moment) :
    recoveredIn (trail ++ more) = recoveredIn trail ++ recoveredIn more := List.filterMap_append

namespace Watched

variable {α β : Type}

def Counted (x : Watched .plain α) : Prop :=
  ∀ m, (after (x.run m)).gestures = m.gestures.countAll (calledIn (x.trail m))

theorem Counted.before {x : Watched .plain α} (h : Counted x) {r : Registry} {m m' : Machine}
    {a : α} (hm : r.Before m.gestures) (hr : x.run m = .ok a m') : r.Before m'.gestures := by
  have hcounted := h m
  rw [hr, after_ok] at hcounted
  exact hcounted ▸ hm.countAll _

theorem counted_of_silent {x : Watched .plain α} (hr : ∀ m, (after (x.run m)).gestures = m.gestures)
    (ht : ∀ m, calledIn (x.trail m) = []) : Counted x := fun m => by rw [hr, ht]; rfl

theorem counted_bind {x : Watched .plain α} {f : α → Watched .plain β} (hx : Counted x)
    (hf : ∀ a, Counted (f a)) : Counted (x >>= f) := by
  intro m
  have hm := hx m
  cases hr : x.run m with
  | error e m' =>
      rw [run_bind_of_error hr, trail_bind_of_error hr, ← hm, hr]
      rfl
  | ok a m' =>
      rw [hr, after_ok] at hm
      rw [run_bind_of_ok hr, trail_bind_of_ok hr, calledIn_append, Registry.countAll_append, ← hm]
      exact hf a m'

theorem calledIn_act (what : Move) (a : Act α) (m : Machine) :
    calledIn ((act what a).trail m) = [] := by
  show calledIn [_] = []
  rw [calledIn, List.filterMap_cons, Happening.called?_ofResult]
  rfl

theorem counted_act (what : Move) (a : Act α) : Counted (act what a) := by
  refine counted_of_silent (fun m => ?_) (calledIn_act what a)
  rw [run_act, Machine.onContext]
  cases a m.context <;> rfl

theorem calledIn_execute (g : Gesture) (call : Call) (m : Machine) :
    calledIn ((execute g call).trail m) = [] := by
  rw [execute_eq_act, calledIn_act]

theorem counted_execute (g : Gesture) (call : Call) : Counted (execute g call) := by
  rw [execute_eq_act]
  exact counted_act _ _

theorem counted_begin (g : Gesture) : Counted (begin g) := fun _ => rfl

theorem counted_call (g : Gesture) (args : List Value) (keywords : Keywords)
    (intentions : List String) : Counted (call g args keywords intentions) :=
  counted_bind (counted_begin g) fun _ m => counted_execute g _ m

theorem calledIn_call (g : Gesture) (args : List Value) (keywords : Keywords)
    (intentions : List String) (m : Machine) :
    calledIn ((call g args keywords intentions).trail m) = [g.symbol] := by
  show calledIn ([⟨.called g, m⟩] ++ (execute g _).trail _) = _
  rw [calledIn_append, calledIn_execute]
  rfl

theorem counted_recoverBy (recovery : Recovery) (e : LimitError) (intentions : List String) :
    Counted (recoverBy recovery e intentions) := by
  cases recovery with
  | marker => exact fun m => counted_call _ _ _ _ m
  | custom f => exact counted_act (.recover f e intentions) _

theorem calledIn_recoverBy (recovery : Recovery) (e : LimitError) (intentions : List String)
    (m : Machine) : (calledIn ((recoverBy recovery e intentions).trail m)).length ≤ 1 := by
  cases recovery with
  | marker =>
      show (calledIn ((call _ _ _ _).trail m)).length ≤ 1
      rw [calledIn_call]
      exact Nat.le_refl 1
  | custom f =>
      show (calledIn ((act (.recover f e intentions) _).trail m)).length ≤ 1
      rw [calledIn_act]
      exact Nat.zero_le 1

section level

variable {intentions : List String} {body : Watched .plain Value}

theorem counted_checked (h : Counted body) : Counted (checked body) :=
  counted_bind (counted_of_silent (fun m => congrArg Machine.gestures m.after_checkCeilings)
    fun _ => rfl) fun _ => h

theorem calledIn_guarded (m : Machine) :
    calledIn ((guarded intentions body).trail m) =
      calledIn ((checked body).trail m.enter) ++
        calledIn (rescue intentions ((checked body).run m.enter)) := by
  simp [calledIn, guarded, Happening.called?]

theorem recoveredIn_guarded (m : Machine) :
    recoveredIn ((guarded intentions body).trail m) =
      recoveredIn ((checked body).trail m.enter) ++
        recoveredIn (rescue intentions ((checked body).run m.enter)) := by
  simp [recoveredIn, guarded, Happening.recovered?]

theorem calledIn_rescue_le (r : EStateM.Result EvalError Machine Value) :
    (calledIn (rescue intentions r)).length ≤ (recoveredIn (rescue intentions r)).length := by
  match r with
  | .ok v m => exact Nat.le_refl _
  | .error e m =>
      cases e with
      | limit l =>
          have hcall := calledIn_recoverBy m.recovery l intentions m
          show (calledIn (_ :: (recoverBy m.recovery l intentions).trail m)).length ≤
            (recoveredIn (_ :: (recoverBy m.recovery l intentions).trail m)).length
          simp only [calledIn, recoveredIn, List.filterMap_cons, Happening.called?,
            Happening.recovered?, List.length_cons] at hcall ⊢
          omega
      | _ => exact Nat.le_refl _

theorem counted_guarded (h : Counted body) : Counted (guarded intentions body) := by
  intro m
  have hchecked := counted_checked h m.enter
  rw [calledIn_guarded, Registry.countAll_append]
  cases hr : (checked body).run m.enter with
  | ok v t =>
      rw [hr, after_ok] at hchecked
      rw [guarded_of_ok hr, after_ok]
      exact hchecked
  | error e t =>
      rw [hr, after_error] at hchecked
      cases hlimit : e.isLimit with
      | false =>
          rw [guarded_of_error hr hlimit, after_error, rescue_of_error hlimit]
          exact hchecked
      | true =>
          obtain ⟨l, rfl⟩ := EvalError.eq_limit_of_isLimit hlimit
          have hrecovered := counted_recoverBy t.recovery l intentions t
          rw [guarded_of_limit hr]
          rw [hchecked] at hrecovered
          refine Eq.trans ?_ hrecovered
          cases (recoverBy t.recovery l intentions).run t <;> rfl

end level

theorem counted_closed : Closed (X := .plain) (fun _ => True) (fun _ x => Counted x) where
  require _ _ := counted_act _ _
  collapse _ _ := counted_act _ _
  execute _ _ := counted_execute _
  respond _ _ e intentions := counted_recoverBy (.custom _) e intentions
  pure _ := counted_of_silent (fun _ => rfl) fun _ => rfl
  bind := counted_bind
  malformed _ := counted_of_silent (fun _ => rfl) fun _ => rfl
  look h m := h m trivial m
  begin := counted_begin
  guarded _ h := counted_guarded h

end Watched

end GestureGraph
