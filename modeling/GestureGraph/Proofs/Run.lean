import GestureGraph.Cycle
import GestureGraph.Proofs.Course

open Relation (ReflTransGen)

namespace GestureGraph

namespace Mutation

theorem keeps_run (μ : Mutation) : Keeps Context.Reaches μ.run := by
  cases μ with
  | addEntity name attrs =>
      exact Context.keeps_reaches (keeps_discard (Context.keeps_addEntity name attrs))
  | addRelation source target kind attrs =>
      exact Context.keeps_reaches
        (keeps_discard (Context.keeps_addRelation source target kind attrs))
  | enrich name attrs =>
      exact Context.keeps_reaches (keeps_discard (Context.keeps_enrich name attrs))
  | ensureRoom names => exact Context.keeps_reaches (Context.keeps_ensureRoom names)
  | registerBlindSpot key description =>
      exact keeps_modify fun c => .single (.blindSpot c key description)
  | recordTension kind description entities =>
      exact keeps_modify fun c => .single (.tension c kind description entities)
  | recordDialogue prompt response intentions =>
      exact keeps_modify fun c => .single (.dialogue c prompt response intentions)
  | setLifecycle name status intentions =>
      refine keeps_modify fun c => ?_
      cases h : c.setLifecycle? name status intentions with
      | none => exact .refl
      | some c' => exact .single (.lifecycle name status intentions h)
  | enableFairCare => exact keeps_modify fun c => .single (.fairCare c)
  | setOperator id => exact keeps_modify fun c => .single (.operator c id)
  | coherence => exact keeps_modify fun c => .single (.sample c)
  | summary => exact keeps_modify fun c => .single (.sample c)
  | metadata => exact keeps_modify fun c => .single (.sample c)
  | clock now => exact keeps_modify fun c => .single (.clock c now)

end Mutation

namespace Watched

def settle (x : Watched .plain Value) : Watched .plain Value where
  run m :=
    match x.run m with
    | .ok v m' => .ok v m'
    | .error e m' => .ok (.failed e.message) m'
  trail := x.trail

def evaluateAll (intentions : List String) : List Value → Watched .plain (List Value)
  | [] => pure []
  | expr :: rest => do
      let v ← settle (evaluate intentions expr)
      let vs ← evaluateAll intentions rest
      return v :: vs

theorem run_evaluateAll (intentions : List String) (exprs : List Value) (m : Machine) :
    (evaluateAll intentions exprs).run m =
      .ok (Machine.evaluateAll intentions exprs m).1
        (Machine.evaluateAll intentions exprs m).2 := by
  induction exprs generalizing m with
  | nil => rfl
  | cons expr rest ih =>
      have hrun : (evaluate intentions expr).run m = Machine.evaluate intentions expr m := by
        rw [run_evaluate]
      rw [evaluateAll, Machine.evaluateAll]
      cases h : Machine.evaluate intentions expr m with
      | ok v m' =>
          have hs : (settle (evaluate intentions expr)).run m = .ok v m' := by
            simp only [settle, hrun, h]
          rw [run_bind_of_ok hs, run_bind_of_ok (ih m')]
          rfl
      | error e m' =>
          have hs : (settle (evaluate intentions expr)).run m = .ok (.failed e.message) m' := by
            simp only [settle, hrun, h]
          rw [run_bind_of_ok hs, run_bind_of_ok (ih m')]
          rfl

variable {r : Context → Context → Prop}

theorem guided_settle {x : Watched .plain Value} (h : Guided r x) : Guided r (settle x) where
  trail := h.trail
  run m hm := by
    have hr := h.run m hm
    simp only [settle]
    cases hx : x.run m with
    | ok v m' =>
        rw [hx] at hr
        exact hr
    | error e m' =>
        rw [hx] at hr
        exact hr

theorem guided_evaluateAll {intentions : List String}
    (h : ∀ v, Guided r (evaluate intentions v)) (exprs : List Value) :
    Guided r (evaluateAll intentions exprs) := by
  induction exprs with
  | nil => exact guided_pure []
  | cons expr rest ih =>
      exact guided_bind (guided_settle (h expr)) fun v =>
        guided_bind ih fun vs => guided_pure _

end Watched

def Tame ⦃α : Type⦄ (a : Act α) : Prop := ∀ c : Context, c.Reaches (after (a c))

theorem tame_of_does {α : Type} {a : Act α} (h : Keeps Context.Does a) : Tame a :=
  Context.keeps_reaches h

namespace Watched

theorem guided_evaluate (intentions : List String) (v : Value) :
    Guided Context.Alteration (evaluate intentions v) :=
  (guided_closed fun _ _ h => tame_of_does h).evaluate intentions v

end Watched

inductive Action where
  | mutate (μ : Mutation)
  | evaluate (intentions : List String) (expr : Value)
  | runProgram (program : Program) (options : CycleOptions)
  | runSource (source : String) (options : CycleOptions)
  | register (g : Gesture)
  | clearGestures
  | recoverBy (recovery : Recovery)

namespace Action

def apply : Action → Machine → Machine
  | .mutate μ, m => after (Machine.onContext μ.run.act m)
  | .evaluate intentions expr, m => after (Machine.evaluate intentions expr m)
  | .runProgram program options, m => (m.runProgram program options).2
  | .runSource source options, m =>
      match m.runSource source options with
      | .ok (_, m') => m'
      | .error _ => m
  | .register g, m => { m with gestures := Registry.register m.gestures g }
  | .clearGestures, m => { m with gestures := {} }
  | .recoverBy recovery, m => { m with recovery := recovery }

theorem after_mutate (μ : Mutation) (m : Machine) :
    (Action.mutate μ).apply m = { m with context := after (μ.run m.context) } := by
  simp only [apply, Machine.onContext, Change.act]
  cases μ.run m.context <;> rfl

def programTrail (program : Program) (options : CycleOptions) (m : Machine) : List Moment :=
  (Watched.evaluateAll program.intentions program.expressions).trail (m.prepare options)

def trail : Action → Machine → List Moment
  | .mutate μ, m => (Watched.act (.mutate μ) μ.run.act).trail m
  | .evaluate intentions expr, m => (Watched.evaluate intentions expr).trail m
  | .runProgram program options, m => programTrail program options m
  | .runSource source options, m =>
      match Program.read m.context.axioms "<input>" source with
      | .ok program => programTrail program options m
      | .error _ => []
  | _, _ => []

def Lawful (Fine : ∀ ⦃α : Type⦄, Act α → Prop) : Action → Prop
  | .register g => ∀ call, Fine (g.perform call)
  | .recoverBy recovery => ∀ f, recovery = .custom f → ∀ e intentions, Fine (f e intentions)
  | _ => True

theorem Lawful.mono {Fine Fine' : ∀ ⦃α : Type⦄, Act α → Prop} {a : Action} (h : a.Lawful Fine)
    (hf : ∀ {α : Type} {a : Act α}, Fine a → Fine' a) : a.Lawful Fine' := by
  cases a with
  | register g => exact fun call => hf (h call)
  | recoverBy recovery => exact fun f hr e intentions => hf (h f hr e intentions)
  | _ => trivial

variable {m : Machine}

theorem settings_apply (options : CycleOptions) (c : Context) :
    ReflTransGen Context.Setting c (options.apply c) := by
  simp only [CycleOptions.apply]
  cases options.operator? with
  | none =>
      split
      · exact .single (.fairCare _)
      · exact .refl
  | some id =>
      split
      · exact .tail (.single (.operator _ id)) (.fairCare _)
      · exact .single (.operator _ id)

theorem onCourse_prepare (hm : m.Confined Tame)
    (options : CycleOptions) : OnCourse Context.Alteration m.context (m.prepare options) := by
  have hreached : m.context.Reaches (options.apply m.context) :=
    ReflTransGen.mono (fun _ _ hs => hs.alteration) _ _ (settings_apply options m.context)
  exact ⟨⟨hm.gestures, hm.recovery⟩, hreached⟩

theorem onCourse_runProgram (hm : m.Confined Tame) (program : Program)
    (options : CycleOptions) :
    OnCourse Context.Alteration m.context (m.runProgram program options).2 := by
  have hstart := onCourse_prepare hm options
  have hguided := Watched.guided_evaluateAll (Watched.guided_evaluate program.intentions)
    program.expressions
  have hrun := hguided.run (m.prepare options) hstart.confined
  rw [Watched.run_evaluateAll] at hrun
  exact (hstart.trans hrun).move (.single (.sample _))

theorem onCourse_programTrail (hm : m.Confined Tame) {program : Program}
    {options : CycleOptions} {t : Moment} (ht : t ∈ programTrail program options m) :
    OnCourse Context.Alteration m.context t.machine := by
  have hstart := onCourse_prepare hm options
  have hguided := Watched.guided_evaluateAll (Watched.guided_evaluate program.intentions)
    program.expressions
  exact hstart.trans (hguided.trail (m.prepare options) hstart.confined t ht)

theorem tame_mutation (μ : Mutation) : Tame μ.run.act := keeps_act μ.keeps_run

theorem confined_register {Fine : ∀ ⦃α : Type⦄, Act α → Prop} {m : Machine} (hm : m.Confined Fine)
    {g : Gesture} (hg : ∀ call, Fine (g.perform call)) :
    ((Action.register g).apply m).Confined Fine where
  gestures symbol g' hg' call := by
    have hg' : (m.gestures.insert g.symbol g).get? symbol = some g' := hg'
    rw [Table.get?_insert_eq] at hg'
    split at hg'
    · cases hg'
      exact hg call
    · exact hm.gestures symbol g' hg' call
  recovery := hm.recovery

theorem onCourse_apply (hm : m.Confined Tame) {a : Action}
    (ha : a.Lawful Tame) : OnCourse Context.Alteration m.context (a.apply m) := by
  cases a with
  | mutate μ => exact (OnCourse.start hm).onContext (tame_mutation μ)
  | evaluate intentions expr =>
      have hrun := (Watched.guided_evaluate intentions expr).run m hm
      rw [Watched.run_evaluate] at hrun
      exact hrun
  | runProgram program options => exact onCourse_runProgram hm program options
  | runSource source options =>
      simp only [apply, Machine.runSource]
      cases Program.read m.context.axioms "<input>" source with
      | error e => exact .start hm
      | ok program => exact onCourse_runProgram hm program options
  | register g => exact ⟨confined_register hm ha, .refl⟩
  | clearGestures => exact ⟨⟨(fun _ _ hg => by cases hg), hm.recovery⟩, .refl⟩
  | recoverBy recovery => exact ⟨⟨hm.gestures, ha⟩, .refl⟩

theorem onCourse_trail (hm : m.Confined Tame) {a : Action} {t : Moment}
    (ht : t ∈ a.trail m) : OnCourse Context.Alteration m.context t.machine := by
  cases a with
  | mutate μ => exact (Watched.guided_act _ (tame_mutation μ)).trail m hm t ht
  | evaluate intentions expr =>
      exact (Watched.guided_evaluate intentions expr).trail m hm t ht
  | runProgram program options => exact onCourse_programTrail hm ht
  | runSource source options =>
      simp only [trail] at ht
      cases hp : Program.read m.context.axioms "<input>" source with
      | error e =>
          rw [hp] at ht
          cases ht
      | ok program =>
          rw [hp] at ht
          exact onCourse_programTrail hm ht
  | register g => cases ht
  | clearGestures => cases ht
  | recoverBy recovery => cases ht

end Action

namespace Machine

def perform : List Action → Machine → Machine
  | [], m => m
  | a :: rest, m => perform rest (a.apply m)

def moments : List Action → Machine → List Moment
  | [], _ => []
  | a :: rest, m => a.trail m ++ moments rest (a.apply m)

variable {m : Machine}
  {actions : List Action}

theorem onCourse_perform (ha : ∀ a ∈ actions, a.Lawful Tame)
    (hm : m.Confined Tame) : OnCourse Context.Alteration m.context (perform actions m) := by
  induction actions generalizing m with
  | nil => exact .start hm
  | cons a rest ih =>
      have hstep := Action.onCourse_apply hm (ha a List.mem_cons_self)
      exact hstep.trans (ih (fun b hb => ha b (List.mem_cons_of_mem a hb)) hstep.confined)

theorem onCourse_moments (ha : ∀ a ∈ actions, a.Lawful Tame)
    (hm : m.Confined Tame) {t : Moment} (ht : t ∈ moments actions m) :
    OnCourse Context.Alteration m.context t.machine := by
  induction actions generalizing m with
  | nil => cases ht
  | cons a rest ih =>
      have hstep := Action.onCourse_apply hm (ha a List.mem_cons_self)
      rcases List.mem_append.mp ht with ht | ht
      · exact Action.onCourse_trail hm ht
      · exact hstep.trans (ih (fun b hb => ha b (List.mem_cons_of_mem a hb)) hstep.confined ht)

end Machine

namespace Registry

def IsBuiltIn (r : Registry) : Prop := ∀ symbol g, r.get? symbol = some g → g.behavior = .builtIn

theorem isBuiltIn_register {r : Registry} (h : r.IsBuiltIn) {g : Gesture}
    (hg : g.behavior = .builtIn) : (r.register g).IsBuiltIn := by
  intro symbol g' hg'
  simp only [register, Table.get?_insert_eq] at hg'
  split at hg'
  · cases hg'
    exact hg
  · exact h symbol g' hg'

theorem isBuiltIn_builtIn : IsBuiltIn builtIn := by
  refine List.foldlRecOn _ _ ?_ ?_
  · intro symbol g hg
    cases hg
  · intro r hr op _
    exact isBuiltIn_register (isBuiltIn_register hr rfl) rfl

theorem isBuiltIn_count {r : Registry} (h : r.IsBuiltIn) (symbol : String) :
    (r.count symbol).IsBuiltIn := by
  intro s g hg
  rw [get?_count] at hg
  split at hg
  · obtain ⟨g', hg', rfl⟩ := Option.map_eq_some_iff.mp hg
    exact h s g' hg'
  · exact h s g hg

end Registry

structure Machine.Plain (m : Machine) : Prop where
  gestures : m.gestures.IsBuiltIn
  recovery : m.recovery = .marker

section fresh

variable {Fine : ∀ ⦃α : Type⦄, Act α → Prop}
  (h : ∀ ⦃α : Type⦄ ⦃a : Act α⦄, Keeps Context.Does a → Fine a)

include h

theorem fine_builtIn {g : Gesture} (hg : g.behavior = .builtIn) (call : Call) :
    Fine (g.perform call) := by
  simp only [Gesture.perform, hg]
  exact h (call.keeps_perform g.kind)

theorem confined_fresh (c : Context) : ({ context := c } : Machine).Confined Fine where
  gestures symbol g hg := fine_builtIn h (Registry.isBuiltIn_builtIn symbol g hg)
  recovery f hf := by cases hf

end fresh

namespace Machine

def stations (actions : List Action) (m : Machine) : List Machine :=
  (moments actions m).map Moment.machine ++ [perform actions m]

theorem reaches_stations {c : Context} {actions : List Action}
    (ha : ∀ a ∈ actions, a.Lawful Tame) {m : Machine}
    (hm : m ∈ stations actions { context := c }) : c.Reaches m.context := by
  have hfresh : ({ context := c } : Machine).Confined Tame := confined_fresh @tame_of_does c
  rcases List.mem_append.mp hm with hm | hm
  · obtain ⟨t, ht, rfl⟩ := List.mem_map.mp hm
    exact (onCourse_moments ha hfresh ht).reached
  · obtain rfl := List.mem_singleton.mp hm
    exact (onCourse_perform ha hfresh).reached

theorem perform_mem_stations (actions : List Action) (m : Machine) :
    perform actions m ∈ stations actions m :=
  List.mem_append_right _ (List.mem_singleton.mpr rfl)

end Machine

def rehearsal : List Action :=
  [.register { symbol := "echo", kind := .phi, behavior := .custom fun call => do
      modify (·.recordDialogue "echo" call.symbol call.intentions)
      throw (.limit (.absolutism "echo" "echo")) },
    .recoverBy (.custom fun e _ => do
      modify (·.recordTension "limit" e.message [])
      return .nil),
    .evaluate ["why"] (.list [.str "Λ", .str "a", .list [.str "echo"], .str "Ω"]),
    .mutate (.addRelation "a" "a" "self" {}),
    .mutate (.setLifecycle "a" "dormant" []),
    .runSource "(Ω (∇ a b :intention c))" {}]

theorem lawful_rehearsal : ∀ a ∈ rehearsal, a.Lawful Tame := by
  intro a ha
  simp only [rehearsal, List.mem_cons, List.not_mem_nil, or_false] at ha
  rcases ha with rfl | rfl | rfl | rfl | rfl | rfl
  · exact fun call c => .single (.dialogue c _ _ _)
  · intro f hf e intentions c
    cases hf
    exact .single (.tension c _ _ _)
  · trivial
  · trivial
  · trivial
  · trivial

end GestureGraph
