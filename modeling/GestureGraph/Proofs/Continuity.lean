import GestureGraph.Proofs.Account
import Mathlib.Data.List.Chain

open Relation (ReflTransGen)

namespace GestureGraph

namespace Account

def keptAfter (events : List Event) (coherence : Float) : List Float :=
  if (ofEvents events).statuses.isEmpty then [] else [coherence]

def readings (past : List Event) : List Event → List Float
  | [] => []
  | e :: rest =>
      keptAfter past e.before ++ keptAfter (past ++ [e]) e.after ++ readings (past ++ [e]) rest

theorem readings_append (past events : List Event) (e : Event) :
    readings past (events ++ [e]) =
      readings past events ++ keptAfter (past ++ events) e.before ++
        keptAfter (past ++ events ++ [e]) e.after := by
  induction events generalizing past with
  | nil => simp [readings]
  | cons first rest ih => simp [readings, ih]

theorem keptAfter_events {c : Context} (h : ofEvents c.events = of c) (coherence : Float) :
    keptAfter c.events coherence = c.keptOf coherence := by
  have hempty : (of c).statuses.isEmpty = c.graph.nodes.isEmpty := by
    simp [of, Table.isEmpty, Table.map]
  rw [keptAfter, Context.keptOf, h, hempty]

end Account

namespace Context

variable {c c' c'' : Context} {n k : Nat}

structure Unbroken (c : Context) : Prop where
  gapless : c.events.IsChain fun e e' => e'.before = e.after
  last : ∀ e, c.events.getLast? = some e → e.after = c.measure
  kept : (Account.readings [] c.events).Sublist c.samples

theorem unbroken_bare (name : String) (axioms : Axioms) (now : Nat) :
    (bare name axioms now).Unbroken where
  gapless := .nil
  last e h := by cases h
  kept := .slnil

theorem Unbroken.noted (hc : c.Unbroken) (hac : Account.ofEvents c.events = .of c)
    (hac' : Account.ofEvents c'.events = .of c') {e : Event} (h : c.Noted c' e) :
    c'.Unbroken where
  gapless := by
    rw [h.events, List.isChain_append]
    refine ⟨hc.gapless, .singleton e, ?_⟩
    intro e₁ he₁ e₂ he₂
    obtain rfl : e = e₂ := by simpa using he₂
    rw [h.before, hc.last e₁ he₁]
  last e' he' := by
    rw [h.events, List.getLast?_concat] at he'
    cases he'
    exact h.after
  kept := by
    have hbefore := Account.keptAfter_events hac e.before
    have hafter := Account.keptAfter_events hac' e.after
    rw [h.events] at hafter
    rw [h.events, h.samples, Account.readings_append, List.nil_append, hbefore, hafter]
    exact (hc.kept.append (.refl _)).append (.refl _)

theorem Unbroken.silent (hc : c.Unbroken) (hevents : c'.events = c.events)
    (hmeasure : c'.measure = c.measure) {more : List Float}
    (hsamples : c'.samples = c.samples ++ more) : c'.Unbroken where
  gapless := hevents ▸ hc.gapless
  last e he := by
    rw [hevents] at he
    rw [hmeasure, hc.last e he]
  kept := by
    rw [hevents, hsamples]
    exact hc.kept.trans (List.sublist_append_left _ _)

theorem Unbroken.alteration (hc : c.Unbroken) (hac : Account.ofEvents c.events = .of c)
    (h : c.Alteration c') : c'.Unbroken := by
  rcases h.cases with rfl | hd | hs
  · obtain ⟨hevents, hmeasure, hsamples⟩ := c.sampled_silent
    exact hc.silent hevents hmeasure hsamples
  · obtain ⟨e, he⟩ := hd.noted
    exact hc.noted hac (Account.ofEvents_of_alteration h hac) he
  · obtain ⟨hevents, hmeasure, hsamples⟩ := hs.silent
    exact hc.silent hevents hmeasure (hsamples.trans (List.append_nil _).symm)

theorem Unbroken.reaches (hc : c.Unbroken) (hac : Account.ofEvents c.events = .of c)
    (h : c.Reaches c') : c'.Unbroken := by
  induction h with
  | refl => exact hc
  | tail hr ha ih => exact ih.alteration (Account.ofEvents_of_reaches hr hac) ha

/-- Alterations one after the other, so many of which only read the coherence. -/
inductive Altered (c : Context) : Nat → Context → Prop
  | refl : Altered c 0 c
  | sample {n : Nat} {c' : Context} (h : Altered c n c') : Altered c (n + 1) c'.sampled
  | deed {n : Nat} {c' c'' : Context} (h : Altered c n c') (hd : c'.Deed c'') : Altered c n c''
  | setting {n : Nat} {c' c'' : Context} (h : Altered c n c') (hs : c'.Setting c'') :
      Altered c n c''

theorem Altered.trans (h : c.Altered n c') (h' : c'.Altered k c'') :
    c.Altered (n + k) c'' := by
  induction h' with
  | refl => exact h
  | sample _ ih => exact ih.sample
  | deed _ hd ih => exact ih.deed hd
  | setting _ hs ih => exact ih.setting hs

theorem Altered.reaches (h : c.Altered n c') : c.Reaches c' := by
  induction h with
  | refl => exact .refl
  | sample _ ih => exact ih.tail (.sample _)
  | deed _ hd ih => exact ih.tail hd.alteration
  | setting _ hs ih => exact ih.tail hs.alteration

theorem Reaches.altered (h : c.Reaches c') : ∃ n, c.Altered n c' := by
  induction h with
  | refl => exact ⟨0, .refl⟩
  | tail _ ha ih =>
      obtain ⟨n, hn⟩ := ih
      rcases ha.cases with rfl | hd | hs
      · exact ⟨n + 1, hn.sample⟩
      · exact ⟨n, hn.deed hd⟩
      · exact ⟨n, hn.setting hs⟩

theorem altered_of_does (h : c.Does c') : c.Altered 0 c' := by
  induction h with
  | refl => exact .refl
  | tail _ hd ih => exact ih.deed hd

theorem altered_of_settings (h : ReflTransGen Setting c c') : c.Altered 0 c' := by
  induction h with
  | refl => exact .refl
  | tail _ hs ih => exact ih.setting hs

theorem keptOf_of_contains {name : String} (h : c.contains name = true) (coherence : Float) :
    c.keptOf coherence = [coherence] := by
  have hne : c.graph.nodes.isEmpty = false := by
    cases hn : c.graph.nodes.isEmpty with
    | false => rfl
    | true =>
        have hentries : c.graph.nodes.entries = [] := List.isEmpty_iff.mp hn
        simp [contains, Graph.contains, Table.contains, Table.get?, hentries,
          Table.lookupEntry] at h
  simp [keptOf, hne]

theorem Noted.length {e : Event} (h : c.Noted c' e) {name : String}
    (hc : c.contains name = true) (hc' : c'.contains name = true) :
    c'.events.length = c.events.length + 1 ∧ c'.samples.length = c.samples.length + 2 := by
  rw [h.events, h.samples, keptOf_of_contains hc, keptOf_of_contains hc']
  simp

theorem Altered.length_samples (h : c.Altered n c') {name : String}
    (hname : c.contains name = true) :
    c'.samples.length + 2 * c.events.length =
      c.samples.length + 2 * c'.events.length + n := by
  induction h with
  | refl => rfl
  | @sample n c' h ih =>
      obtain ⟨hevents, _, hsamples⟩ := c'.sampled_silent
      rw [hevents, hsamples, keptOf_of_contains (h.reaches.contains hname), List.length_append,
        List.length_singleton]
      omega
  | @deed n c' c'' h hd ih =>
      obtain ⟨e, he⟩ := hd.noted
      have hc' := h.reaches.contains hname
      obtain ⟨hevents, hsamples⟩ := he.length hc' (hd.alteration.contains hc')
      omega
  | setting h hs ih =>
      obtain ⟨hevents, _, hsamples⟩ := hs.silent
      rwa [hevents, hsamples]

theorem length_registerBlindSpots (entries : List (String × String))
    (hc : c.graph.nodes.isEmpty = true) :
    let c' := entries.foldl (fun c (key, text) => c.registerBlindSpot key text) c
    c'.events.length = c.events.length + entries.length ∧ c'.samples = c.samples ∧
      c'.graph.nodes.isEmpty = true := by
  induction entries generalizing c with
  | nil => exact ⟨rfl, rfl, hc⟩
  | cons entry rest ih =>
      obtain ⟨key, text⟩ := entry
      obtain ⟨e, he⟩ := c.noted_registerBlindSpot key text
      have hg : (c.registerBlindSpot key text).graph = c.graph := by
        obtain ⟨samples, coherence, h⟩ := c.registerBlindSpot_eq key text
        rw [h]
      obtain ⟨hevents, hsamples, hempty⟩ := ih (c := c.registerBlindSpot key text) (by rwa [hg])
      refine ⟨?_, ?_, hempty⟩
      · rw [List.foldl_cons, hevents, he.events, List.length_append, List.length_cons]
        simp only [List.length_nil, List.length_cons]
        omega
      · rw [List.foldl_cons, hsamples, he.samples]
        simp [keptOf, hg, hc]

theorem length_withRequired (name : String) (axioms : Axioms) (now : Nat) :
    (bare name axioms now).withRequired.events.length = axioms.blindSpots.size ∧
      (bare name axioms now).withRequired.samples = [] ∧
      (bare name axioms now).withRequired.graph.nodes.isEmpty = true := by
  obtain ⟨hevents, hsamples, hempty⟩ :=
    length_registerBlindSpots (c := bare name axioms now) axioms.blindSpots.entries rfl
  exact ⟨hevents.trans (Nat.zero_add _), hsamples, hempty⟩

/-- Blind spots are registered before there are entities, and no sample is kept of that. The event
of the first entity keeps one, all others keep two. -/
theorem length_samples_of_create {name : String} {axioms : Axioms} {now : Nat}
    (h : create name axioms now = .ok c) :
    c.samples.length + 2 * axioms.blindSpots.size + 1 = 2 * c.events.length := by
  obtain ⟨hevents, hsamples, hempty⟩ := length_withRequired name axioms now
  have hrest := nameOperators_of_cons (nameOperators_of_create h)
  generalize (bare name axioms now).withRequired = w at hevents hsamples hempty hrest
  obtain ⟨e, he⟩ := w.noted_withEntity Operator.alpha.glyph (operatorAttributes .alpha)
  have hmem := w.contains_withEntity Operator.alpha.glyph (operatorAttributes .alpha)
  have hcount := (altered_of_does (does_of_nameOperators hrest)).length_samples hmem
  have hbefore : w.keptOf e.before = [] := by simp [keptOf, hempty]
  rw [he.events, he.samples, hsamples, hbefore, keptOf_of_contains hmem] at hcount
  simp only [List.length_append, List.length_cons, List.length_nil] at hcount
  omega

end Context

open Context

def Silent ⦃α : Type⦄ (a : Act α) : Prop := ∀ c : Context, c.Altered 0 (after (a c))

abbrev Unread (c c' : Context) : Prop := c.Altered 0 c'

theorem unread_of_path {c c' : Context} (h : ReflTransGen Unread c c') : c.Altered 0 c' := by
  induction h with
  | refl => exact .refl
  | tail _ hr ih => exact ih.trans hr

theorem Silent.follows {α : Type} {a : Act α} (h : Silent a) : Follows Unread a :=
  fun c => .single (h c)

theorem follows_unread {α : Type} {a : Act α} (h : Keeps Does a) : Follows Unread a :=
  fun c => .single (altered_of_does (h c))

theorem guided_unread (intentions : List String) (v : Value) :
    Watched.Guided Unread (Watched.evaluate intentions v) :=
  (Watched.guided_closed fun _ _ => follows_unread).evaluate intentions v

def Mutation.readings : Mutation → Nat
  | .coherence => 1
  | .summary => 1
  | .metadata => 1
  | _ => 0

theorem Mutation.altered_run (μ : Mutation) (c : Context) :
    c.Altered μ.readings (after (μ.run c)) := by
  cases μ with
  | addEntity name attrs =>
      exact altered_of_does (keeps_discard (keeps_addEntity name attrs) c)
  | addRelation source target kind attrs =>
      exact altered_of_does (keeps_discard (keeps_addRelation source target kind attrs) c)
  | enrich name attrs => exact altered_of_does (keeps_discard (keeps_enrich name attrs) c)
  | ensureRoom names => exact altered_of_does (keeps_ensureRoom names c)
  | registerBlindSpot key description =>
      exact .deed .refl (c.deed_registerBlindSpot key description)
  | recordTension kind description entities =>
      exact .deed .refl (c.deed_recordTension kind description entities)
  | recordDialogue prompt response intentions =>
      exact .deed .refl (c.deed_recordDialogue prompt response intentions)
  | setLifecycle name status intentions =>
      show c.Altered 0 ((c.setLifecycle? name status intentions).getD c)
      cases h : c.setLifecycle? name status intentions with
      | none => exact .refl
      | some c' => exact .deed .refl (c.deed_setLifecycle? h)
  | enableFairCare => exact .setting .refl (.fairCare c)
  | setOperator id => exact .setting .refl (.operator c id)
  | coherence => exact .sample .refl
  | summary => exact .sample .refl
  | metadata => exact .sample .refl
  | clock now => exact .setting .refl (.clock c now)

namespace Action

def readings : Action → Machine → Nat
  | .mutate μ, _ => μ.readings
  | .runProgram _ _, _ => 1
  | .runSource source _, m =>
      match Program.read m.context.axioms "<input>" source with
      | .ok _ => 1
      | .error _ => 0
  | _, _ => 0

variable {m : Machine}

theorem altered_prepare (options : CycleOptions) (m : Machine) :
    m.context.Altered 0 (m.prepare options).context :=
  altered_of_settings (settings_apply options m.context)

theorem altered_runProgram (hm : m.Confined (Follows Unread)) (program : Program)
    (options : CycleOptions) :
    (m.runProgram program options).2.Confined (Follows Unread) ∧
      m.context.Altered 1 (m.runProgram program options).2.context := by
  have hguided := Watched.guided_evaluateAll (guided_unread program.intentions) program.expressions
  have hrun := hguided.run (m.prepare options) ⟨hm.gestures, hm.recovery⟩
  rw [Watched.run_evaluateAll] at hrun
  have hbefore := (altered_prepare options m).trans (unread_of_path hrun.reached)
  exact ⟨⟨hrun.confined.gestures, hrun.confined.recovery⟩, hbefore.sample⟩

theorem altered_apply (hm : m.Confined (Follows Unread)) {a : Action}
    (ha : a.Lawful (Follows Unread)) :
    (a.apply m).Confined (Follows Unread) ∧
      m.context.Altered (a.readings m) (a.apply m).context := by
  cases a with
  | mutate μ =>
      rw [after_mutate]
      exact ⟨⟨hm.gestures, hm.recovery⟩, μ.altered_run m.context⟩
  | evaluate intentions expr =>
      have hrun := (guided_unread intentions expr).run m hm
      rw [Watched.run_evaluate] at hrun
      exact ⟨hrun.confined, unread_of_path hrun.reached⟩
  | runProgram program options => exact altered_runProgram hm program options
  | runSource source options =>
      simp only [apply, readings, Machine.runSource]
      cases Program.read m.context.axioms "<input>" source with
      | error e => exact ⟨hm, .refl⟩
      | ok program => exact altered_runProgram hm program options
  | register g => exact ⟨confined_register hm ha, .refl⟩
  | clearGestures => exact ⟨⟨(fun _ _ hg => by cases hg), hm.recovery⟩, .refl⟩
  | recoverBy recovery => exact ⟨⟨hm.gestures, ha⟩, .refl⟩

end Action

namespace Machine

def readings : List Action → Machine → Nat
  | [], _ => 0
  | a :: rest, m => a.readings m + readings rest (a.apply m)

theorem altered_perform {m : Machine} {actions : List Action}
    (ha : ∀ a ∈ actions, a.Lawful (Follows Unread))
    (hm : m.Confined (Follows Unread)) :
    m.context.Altered (readings actions m) (perform actions m).context := by
  induction actions generalizing m with
  | nil => exact .refl
  | cons a rest ih =>
      obtain ⟨hm', hfirst⟩ := Action.altered_apply hm (ha a List.mem_cons_self)
      exact hfirst.trans (ih (fun b hb => ha b (List.mem_cons_of_mem a hb)) hm')

theorem coherence_trail_has_no_gaps {name : String} {axioms : Axioms} {now : Nat} {c : Context}
    (h : Context.create name axioms now = .ok c) {actions : List Action}
    (ha : ∀ a ∈ actions, a.Lawful Tame) :
    (∀ m ∈ stations actions { context := c },
      m.context.Unbroken ∧ m.context.events ≠ [] ∧
      ∃ x, c.Altered x m.context ∧ (m.context.samples.length : ℤ) =
        2 * m.context.events.length - 2 * axioms.blindSpots.size - 1 + x) ∧
    ((∀ a ∈ actions, a.Lawful Silent) →
      ((perform actions { context := c }).context.samples.length : ℤ) =
        2 * (perform actions { context := c }).context.events.length -
          2 * axioms.blindSpots.size - 1 + readings actions { context := c }) := by
  have hcreated := Context.length_samples_of_create h
  have hmem := Context.contains_of_create h .alpha
  have hcount : ∀ x c', c.Altered x c' → (c'.samples.length : ℤ) =
      2 * c'.events.length - 2 * axioms.blindSpots.size - 1 + x := by
    intro x c' hx
    have hlength := hx.length_samples hmem
    omega
  refine ⟨fun m hm => ?_, fun hsilent => ?_⟩
  · have hreached := reaches_stations ha hm
    have hunbroken := (Context.unbroken_bare name axioms now).reaches rfl
      ((Context.reaches_of_create h).trans hreached)
    obtain ⟨x, hx⟩ := hreached.altered
    refine ⟨hunbroken, fun hnil => ?_, x, hx, hcount x _ hx⟩
    -- The context came with events of its own.
    have hle := hreached.events.length_le
    rw [hnil, List.length_nil] at hle
    omega
  · have hlawful : ∀ a ∈ actions, a.Lawful (Follows Unread) :=
      fun a hmem => (hsilent a hmem).mono Silent.follows
    exact hcount _ _ (altered_perform hlawful (confined_fresh (fun _ _ => follows_unread) c))

theorem lawful_silent_rehearsal : ∀ a ∈ rehearsal, a.Lawful Silent := by
  intro a ha
  simp only [rehearsal, List.mem_cons, List.not_mem_nil, or_false] at ha
  rcases ha with rfl | rfl | rfl | rfl | rfl | rfl
  · exact fun call c => .deed .refl (c.deed_recordDialogue _ _ _)
  · intro f hf e intentions c
    cases hf
    exact .deed .refl (c.deed_recordTension _ _ _)
  · trivial
  · trivial
  · trivial
  · trivial

theorem coherence_trail_of_rehearsal : ∃ c, Context.create "rehearsal" .builtIn 0 = .ok c ∧
    (∀ a ∈ rehearsal, a.Lawful Tame) ∧ (∀ a ∈ rehearsal, a.Lawful Silent) ∧
    (perform rehearsal { context := c }).context.Unbroken ∧
    ((perform rehearsal { context := c }).context.samples.length : ℤ) =
      2 * (perform rehearsal { context := c }).context.events.length -
        2 * Axioms.builtIn.blindSpots.size - 1 + readings rehearsal { context := c } := by
  obtain ⟨c, hc⟩ := Context.create_of_room "rehearsal" 0
    (show 6 ≤ Axioms.builtIn.limits.entities by decide)
  obtain ⟨hstations, hcount⟩ := coherence_trail_has_no_gaps hc lawful_rehearsal
  obtain ⟨hunbroken, _⟩ := hstations _ (perform_mem_stations _ _)
  exact ⟨c, hc, lawful_rehearsal, lawful_silent_rehearsal, hunbroken,
    hcount lawful_silent_rehearsal⟩

end Machine

end GestureGraph
