import GestureGraph.Proofs.Alteration
import GestureGraph.Proofs.Level

open Relation (ReflTransGen)

namespace GestureGraph

theorem Registry.get?_count (r : Registry) (symbol s : String) :
    (r.count symbol).get? s =
      if s = symbol then (r.get? s).map fun g => { g with calls := g.calls + 1 } else r.get? s := by
  rw [Registry.count, Table.get?_modify]
  split
  · rename_i h
    rw [h]
  · rfl

section follows

variable (r : Context → Context → Prop)

def Follows ⦃α : Type⦄ (a : Act α) : Prop := Keeps (ReflTransGen r) a

structure OnCourse (c : Context) (m : Machine) : Prop where
  confined : m.Confined (Follows r)
  reached : ReflTransGen r c m.context

variable {r}

namespace OnCourse

variable {c : Context} {m : Machine}

theorem start (h : m.Confined (Follows r)) : OnCourse r m.context m := ⟨h, .refl⟩

theorem trans {m' : Machine} (h : OnCourse r c m) (h' : OnCourse r m.context m') :
    OnCourse r c m' := ⟨h'.confined, h.reached.trans h'.reached⟩

theorem enter (h : OnCourse r c m) : OnCourse r c m.enter :=
  ⟨⟨h.confined.gestures, h.confined.recovery⟩, h.reached⟩

theorem leave (h : OnCourse r c m) : OnCourse r c m.leave :=
  ⟨⟨h.confined.gestures, h.confined.recovery⟩, h.reached⟩

theorem count (h : OnCourse r c m) (symbol : String) :
    OnCourse r c (after (Machine.count symbol m)) := by
  refine ⟨⟨?_, h.confined.recovery⟩, h.reached⟩
  intro s g hg call
  have hg : (m.gestures.count symbol).get? s = some g := hg
  rw [Registry.get?_count] at hg
  split at hg
  · obtain ⟨g', hg', rfl⟩ := Option.map_eq_some_iff.mp hg
    exact h.confined.gestures s g' hg' call
  · exact h.confined.gestures s g hg call

theorem move (h : OnCourse r c m) {c' : Context} (hc : ReflTransGen r m.context c') :
    OnCourse r c { m with context := c' } :=
  ⟨⟨h.confined.gestures, h.confined.recovery⟩, h.reached.trans hc⟩

theorem onContext {α : Type} {a : Act α} (h : OnCourse r c m) (ha : Follows r a) :
    OnCourse r c (after (Machine.onContext a m)) := by
  have hm := ha m.context
  simp only [Machine.onContext]
  cases hx : a m.context with
  | ok v c' =>
      rw [hx] at hm
      exact h.move hm
  | error e c' =>
      rw [hx] at hm
      exact h.move hm

end OnCourse

end follows

namespace Watched

variable {α β : Type} {r : Context → Context → Prop} {intentions : List String}
  {body : Watched .plain Value}

structure Guided (r : Context → Context → Prop) (x : Watched .plain α) : Prop where
  trail : ∀ m, m.Confined (Follows r) → ∀ t ∈ x.trail m, OnCourse r m.context t.machine
  run : ∀ m, m.Confined (Follows r) → OnCourse r m.context (after (x.run m))

theorem guided_pure (a : α) : Guided r (pure a : Watched .plain α) where
  trail _ _ _ h := by cases h
  run _ hm := .start hm

theorem guided_malformed (text : String) :
    Guided r (fail (.malformed text) : Watched .plain α) where
  trail _ _ _ h := by cases h
  run _ hm := .start hm

theorem guided_bind {x : Watched .plain α} {f : α → Watched .plain β} (hx : Guided r x)
    (hf : ∀ a, Guided r (f a)) : Guided r (x >>= f) where
  trail m hm t ht := by
    have hs := hx.run m hm
    cases h : x.run m with
    | error e m' =>
        rw [trail_bind_of_error h] at ht
        exact hx.trail m hm t ht
    | ok a m' =>
        rw [h] at hs
        rw [trail_bind_of_ok h] at ht
        rcases List.mem_append.mp ht with ht | ht
        · exact hx.trail m hm t ht
        · exact hs.trans ((hf a).trail m' hs.confined t ht)
  run m hm := by
    have hs := hx.run m hm
    cases h : x.run m with
    | error e m' =>
        rw [h] at hs
        rwa [run_bind_of_error h]
    | ok a m' =>
        rw [h] at hs
        rw [run_bind_of_ok h]
        exact hs.trans ((hf a).run m' hs.confined)

theorem guided_look {f : Machine → Watched .plain α}
    (h : ∀ m, m.Confined (Follows r) → Guided r (f m)) : Guided r (look f) where
  trail m hm := (h m hm).trail m hm
  run m hm := (h m hm).run m hm

theorem guided_begin (g : Gesture) : Guided r (begin g) where
  trail m hm t ht := by
    obtain rfl := List.mem_singleton.mp ht
    exact .start hm
  run m hm := (OnCourse.start hm).count g.symbol

theorem guided_act {a : Act α} (what : Move) (ha : Follows r a) : Guided r (act what a) where
  trail m hm t ht := by
    obtain rfl := List.mem_singleton.mp ht
    exact (OnCourse.start hm).onContext ha
  run m hm := (OnCourse.start hm).onContext ha

theorem guided_ceilings : Guided r ⟨Machine.checkCeilings, fun _ => []⟩ where
  trail _ _ _ h := by cases h
  run m hm := by
    show OnCourse r m.context (after (Machine.checkCeilings m))
    rw [Machine.after_checkCeilings]
    exact .start hm

theorem guided_checked (h : Guided r body) : Guided r (checked body) :=
  guided_bind guided_ceilings fun _ => h

theorem onCourse_guarded
    (hr : ∀ (m : Machine) e, m.Confined (Follows r) →
      Guided r (recoverBy m.recovery e intentions))
    (h : Guided r body) {m : Machine} (hm : m.Confined (Follows r)) :
    OnCourse r m.context (after (Machine.guarded intentions body.run m)) := by
  have henter := (OnCourse.start hm).enter
  have hb := henter.trans ((guided_checked h).run m.enter henter.confined)
  rw [run_checked] at hb
  rcases Machine.guarded_cases intentions body.run m with
    ⟨v, m', hc, hg⟩ | ⟨e, m', v, hc, hg⟩ | ⟨e, m', hc, _, hg⟩
  · rw [hc] at hb
    rw [hg]
    exact hb.leave
  · rw [hc] at hb
    rw [hg]
    have hrec := (hr m' e hb.confined).run m' hb.confined
    rw [run_recoverBy] at hrec
    exact (hb.trans hrec).leave
  · rw [hc] at hb
    rw [hg]
    exact hb.leave

theorem guided_guarded
    (hr : ∀ (m : Machine) e, m.Confined (Follows r) →
      Guided r (recoverBy m.recovery e intentions))
    (h : Guided r body) : Guided r (guarded intentions body) where
  trail m hm t ht := by
    have henter := (OnCourse.start hm).enter
    have hc := guided_checked h
    rcases mem_trail_guarded_iff.mp ht with rfl | ht | ht | rfl
    · exact henter
    · exact henter.trans (hc.trail m.enter henter.confined t ht)
    · obtain ⟨e, m', hb, ht⟩ := mem_rescue_iff.mp ht
      have hm' := hc.run m.enter henter.confined
      rw [hb] at hm'
      rcases ht with rfl | ht
      · exact henter.trans hm'
      · exact (henter.trans hm').trans ((hr m' e hm'.confined).trail m' hm'.confined t ht)
    · exact onCourse_guarded hr h hm
  run m hm := onCourse_guarded hr h hm

theorem guided_execute {g : Gesture} (hg : ∀ call, Follows r (g.perform call)) (call : Call) :
    Guided r (execute g call) := by
  rw [execute_eq_act]
  exact guided_act _ (hg call)

/-- It is enough that what operators do goes along `r`, even where other alterations do not. -/
theorem guided_closed
    (h : ∀ ⦃α : Type⦄ ⦃a : Act α⦄, Keeps Context.Does a → Follows r a) :
    Closed (Machine.Confined (Follows r)) (fun _ x => Guided r x) where
  require call least := guided_act _ (h (call.keeps_requireOperands least))
  collapse call v := guided_act _ (h (call.keeps_collapse v))
  execute hm hg call := by
    refine guided_execute (fun call => ?_) call
    rcases hg with ⟨symbol, hg⟩ | hg
    · exact hm.gestures symbol _ hg call
    · rw [Gesture.perform, hg]
      exact h (call.keeps_perform _)
  respond hm hr e intentions := guided_act _ (hm.recovery _ hr e intentions)
  pure := guided_pure
  bind := guided_bind
  malformed := guided_malformed
  look := guided_look
  begin := guided_begin
  guarded := guided_guarded

end Watched

end GestureGraph
