import GestureGraph.Proofs.Spelling

namespace GestureGraph

namespace Context

/-- A change that reads no samples, though it may leave some. -/
def Blind (f : Context → Context) : Prop :=
  ∀ c samples, ∃ samples', f { c with samples := samples } = { f c with samples := samples' }

theorem record_blind (c : Context) (samples : List Float) (note : Note)
    (change : Context → Context) (h : ∀ c samples, change { c with samples := samples } =
      { change c with samples := samples }) :
    ∃ samples', ({ c with samples := samples } : Context).record note change =
      { c.record note change with samples := samples' } := by
  obtain ⟨s, hs⟩ := c.record_eq note change h
  obtain ⟨s', hs'⟩ := ({ c with samples := samples } : Context).record_eq note change h
  have hmeasure : ({ c with samples := samples } : Context).measure = c.measure := rfl
  have hchanged : ({ change c with samples := samples } : Context).measure =
      (change c).measure := rfl
  rw [h, hmeasure, hchanged] at hs'
  exact ⟨s', by rw [hs, hs']⟩

theorem blind_withEntity (name : String) (attrs : Attributes) :
    Blind (·.withEntity name attrs) := by
  intro c samples
  let grant : Grant := ⟨name, "to_exist", c.operator?.getD "system", c.name⟩
  exact record_blind { c with grants := c.grants ++ [grant] } samples _ _ fun _ _ => rfl

theorem blind_withRelation (source target kind : String) (attrs : Attributes) :
    Blind (·.withRelation source target kind attrs) := fun c samples =>
  c.record_blind samples _ _ fun _ _ => rfl

theorem blind_withAttributes (name : String) (attrs : Attributes) :
    Blind (·.withAttributes name attrs) := fun c samples =>
  c.record_blind samples _ _ fun _ _ => rfl

theorem blind_recordTension (kind description : String) (entities : List String) :
    Blind (·.recordTension kind description entities) := fun c samples =>
  c.record_blind samples _ _ fun _ _ => rfl

theorem blind_recordDialogue (prompt response : String) (intentions : List String) :
    Blind (·.recordDialogue prompt response intentions) := fun c samples =>
  c.record_blind samples _
    (fun c' => { c' with dialogues := c'.dialogues ++ [⟨prompt, response, intentions, c.measure⟩] })
    fun _ _ => rfl

theorem setLifecycle?_blind (c : Context) (samples : List Float) (name status : String)
    (intentions : List String) :
    ∃ samples', ({ c with samples := samples } : Context).setLifecycle? name status intentions =
      (c.setLifecycle? name status intentions).map ({ · with samples := samples' }) := by
  have hcontains : ({ c with samples := samples } : Context).contains name = c.contains name := rfl
  simp only [setLifecycle?, hcontains]
  cases c.contains name with
  | false => exact ⟨samples, rfl⟩
  | true =>
      obtain ⟨samples', h⟩ := c.record_blind samples
        { kind := if status = statusReturned then .entityReturned else .lifecycleChanged
          intentions := intentions
          affected := [name]
          attributes := .ofList [("status", .str status)] }
        (setGraph fun g => { g with nodes := g.nodes.modify name ({ · with status := status }) })
        fun _ _ => rfl
      exact ⟨samples', congrArg some h⟩

structure SameButSamples (c c' : Context) : Prop where
  essence : ∃ samples, c'.essence = { c.essence with samples := samples }
  axioms : c'.axioms = c.axioms

namespace SameButSamples

variable {c c' : Context}

theorem refl (c : Context) : c.SameButSamples c := ⟨⟨c.essence.samples, rfl⟩, rfl⟩

theorem change (h : c.SameButSamples c') {f : Context → Context} (hf : Essential f)
    (hblind : Blind f) : (f c).SameButSamples (f c') where
  essence := by
    obtain ⟨samples, hessence⟩ := h.essence
    obtain ⟨samples', hchanged⟩ := hblind c.essence samples
    exact ⟨samples', by rw [hf.essence, hf.essence, hessence, hchanged]⟩
  axioms := by rw [hf.axioms, hf.axioms, h.axioms]

theorem contains (h : c.SameButSamples c') (name : String) :
    c'.contains name = c.contains name := by
  obtain ⟨samples, hessence⟩ := h.essence
  rw [← contains_essence, hessence, ← contains_essence c]
  rfl

theorem nodeCount (h : c.SameButSamples c') : c'.nodeCount = c.nodeCount := by
  obtain ⟨samples, hessence⟩ := h.essence
  rw [← nodeCount_essence, hessence, ← nodeCount_essence c]
  rfl

theorem setLifecycle? (h : c.SameButSamples c') (name status : String)
    (intentions : List String) :
    Option.Rel SameButSamples (c.setLifecycle? name status intentions)
      (c'.setLifecycle? name status intentions) := by
  obtain ⟨samples, hessence⟩ := h.essence
  obtain ⟨samples', hchanged⟩ := c.essence.setLifecycle?_blind samples name status intentions
  rw [← hessence, ← essence_setLifecycle?, ← essence_setLifecycle?, Option.map_map] at hchanged
  cases hc : c.setLifecycle? name status intentions with
  | none =>
      rw [hc] at hchanged
      rw [Option.map_eq_none_iff.mp hchanged]
      exact .none
  | some t =>
      rw [hc] at hchanged
      obtain ⟨t', hc', ht'⟩ := Option.map_eq_some_iff.mp hchanged
      rw [hc']
      obtain ⟨_, _, _, ht⟩ := c.setLifecycle?_eq hc
      obtain ⟨_, _, _, hs⟩ := c'.setLifecycle?_eq hc'
      refine .some ⟨⟨samples', ht'⟩, ?_⟩
      rw [ht, hs]
      exact h.axioms

end SameButSamples

theorem tacit_sameButSamples {excused : EvalError → Prop} : Tacit SameButSamples excused where
  contains h := h.contains
  nodeCount h := h.nodeCount
  entities_granted h _ hc := h.axioms ▸ hc
  entities_refused h _ _ hc := Or.inr (h.axioms ▸ hc)
  depth_granted h _ hd := h.axioms ▸ hd
  depth_refused h _ _ hd := Or.inr (h.axioms ▸ hd)
  withEntity h name attrs :=
    h.change (essential_withEntity name attrs) (blind_withEntity name attrs)
  withRelation h source target kind attrs :=
    h.change (essential_withRelation source target kind attrs)
      (blind_withRelation source target kind attrs)
  withAttributes h name attrs :=
    h.change (essential_withAttributes name attrs) (blind_withAttributes name attrs)
  recordTension h kind description entities :=
    h.change (essential_recordTension kind description entities)
      (blind_recordTension kind description entities)
  recordDialogue h prompt response intentions :=
    h.change (essential_recordDialogue prompt response intentions)
      (blind_recordDialogue prompt response intentions)
  setLifecycle? h := h.setLifecycle?

theorem sameButSamples_sampled (c : Context) : c.SameButSamples c.sampled := by
  obtain ⟨samples, h⟩ := c.sampled_eq
  rw [h]
  exact ⟨⟨samples, rfl⟩, rfl⟩

theorem SameButSamples.trans {c c' c'' : Context} (h : c.SameButSamples c')
    (h' : c'.SameButSamples c'') : c.SameButSamples c'' := by
  obtain ⟨samples, hessence⟩ := h'.essence
  obtain ⟨_, hessence'⟩ := h.essence
  exact ⟨⟨samples, by rw [hessence, hessence']⟩, h'.axioms.trans h.axioms⟩

end Context

def Happening.responds : Happening → Bool
  | .called g => g.kind = .phi
  | _ => false

def Gesture.Respects (S : Context → Context → Prop) (g : Gesture) : Prop :=
  ∀ act, g.behavior = .custom act → ∀ call c c', S c c' → Alike Eq S (act call c) (act call c')

/-- Of gestures that do not respond and of the recovery, those that are not built in do alike
however many samples there are. -/
structure Machine.ReadsNoSamples (m : Machine) : Prop where
  gestures : ∀ symbol g, m.gestures.get? symbol = some g →
    g.kind = .phi ∨ g.Respects Context.SameButSamples
  recovery : m.recovery.Respects Context.SameButSamples

namespace Comparison

/-- The same expressions in contexts of which one has been looked at more often. It goes as far as
no gesture responds. -/
def glances : Comparison where
  heads := Eq
  exprs := Eq
  contexts := Context.SameButSamples
  spoils h := h.responds = true
  head_refl _ := rfl
  form h := Value.form_of_eq h
  malformed h := Value.malformed_of_eq h
  atom h _ := h.symm
  tacit := Context.tacit_sameButSamples
  responses := Or.inl fun _ hg => decide_eq_true hg
  spoils_failed h := by cases h (.mutate .coherence)

theorem parallel_of_alike {α : Type} {a : Act α}
    (h : ∀ c c', Context.SameButSamples c c' → Alike Eq Context.SameButSamples (a c) (a c')) :
    glances.ParallelActs a a := fun c c' hc =>
  Or.inr ((h c c' hc).mono (fun e _ he => he ▸ .same e) fun _ _ hs => hs)

theorem twin_of_readsNoSamples {m : Machine} (h : m.ReadsNoSamples) : glances.Twin m m where
  context := .refl _
  depth := rfl
  gestures := by
    rintro symbol _ rfl
    cases hg : m.gestures.get? symbol with
    | none => exact .none symbol
    | some g =>
        cases hb : g.behavior with
        | builtIn => exact .some ⟨rfl, rfl, hb, hb⟩
        | custom act =>
            refine .own ⟨fun h => h.symm, rfl, rfl, act, hb, hb, ?_⟩
            rcases h.gestures symbol g hg with hphi | hrespects
            · exact Or.inl fun _ => decide_eq_true hphi
            · exact Or.inr fun call => parallel_of_alike (hrespects act hb call)
  recovery := by
    refine Or.inr ⟨rfl, fun f hf e intentions => parallel_of_alike ?_⟩
    have hrespects := h.recovery
    rw [hf] at hrespects
    exact hrespects e intentions

end Comparison

inductive Mutation.IsLook : Mutation → Prop
  | coherence : IsLook .coherence
  | summary : IsLook .summary
  | metadata : IsLook .metadata
  | clock (now : Nat) : IsLook (.clock now)

theorem Mutation.IsLook.apply {μ : Mutation} (h : μ.IsLook) (m : Machine) :
    ∃ c, (Action.mutate μ).apply m = { m with context := c } ∧ m.context.SameButSamples c := by
  cases h with
  | coherence => exact ⟨_, rfl, m.context.sameButSamples_sampled⟩
  | summary => exact ⟨_, rfl, m.context.sameButSamples_sampled⟩
  | metadata => exact ⟨_, rfl, m.context.sameButSamples_sampled⟩
  | clock now => exact ⟨_, rfl, ⟨_, rfl⟩, rfl⟩

/-- The evaluations that are asked for, with looks before, between and after them. -/
inductive Interleaved : List Request → List Action → Prop
  | nil : Interleaved [] []
  | request {requests : List Request} {actions : List Action} (r : Request)
      (h : Interleaved requests actions) : Interleaved (r :: requests) (r.action :: actions)
  | look {requests : List Request} {actions : List Action} {μ : Mutation} (hμ : μ.IsLook)
      (h : Interleaved requests actions) : Interleaved requests (.mutate μ :: actions)

def Action.result? : Action → Machine → Option (Except EvalError Value)
  | .evaluate intentions expr, m => some (Machine.outcome (Machine.evaluate intentions expr m))
  | _, _ => none

namespace Machine

def results : List Action → Machine → List (Except EvalError Value)
  | [], _ => []
  | a :: rest, m => (a.result? m).toList ++ results rest (a.apply m)

open Comparison

theorem glanced_run {requests : List Request} {actions : List Action}
    (h : Interleaved requests actions) {m m' : Machine} (hm : glances.Twin m m') :
    (∃ t ∈ trailOf requests m, t.happening.responds = true) ∨
      results actions m' = outcomes requests m ∧
        glances.Twin (run requests m) (perform actions m') := by
  induction h generalizing m m' with
  | nil => exact Or.inr ⟨rfl, hm⟩
  | request r h ih =>
      have hexpr : glances.exprs r.expr r.expr := rfl
      rcases twin_evaluate r.intentions hexpr hm with ⟨t, ht, hs⟩ | ⟨halike, _⟩
      · exact Or.inl ⟨t, List.mem_append_left _ ht, hs⟩
      rcases ih halike.state with ⟨t, ht, hs⟩ | ⟨hresults, htwin⟩
      · exact Or.inl ⟨t, List.mem_append_right _ ht, hs⟩
      have houtcome := (agree_outcome halike).eq (fun h => h) fun h => h
      refine Or.inr ⟨?_, htwin⟩
      rw [outcomes, houtcome]
      exact congrArg _ hresults
  | look hμ h ih =>
      obtain ⟨c, happly, hc⟩ := hμ.apply m'
      have hlooked : glances.Twin m { m' with context := c } :=
        ⟨hm.context.trans hc, hm.depth, hm.gestures, hm.recovery⟩
      have hrest := ih hlooked
      rw [← happly] at hrest
      exact hrest

theorem looking_changes_no_outcome {m : Machine} (hm : m.ReadsNoSamples)
    {requests : List Request} {actions : List Action} (h : Interleaved requests actions)
    (hsilent : ∀ t ∈ trailOf requests m, t.happening.responds = false) :
    results actions m = outcomes requests m ∧
      (run requests m).context.SameButSamples (perform actions m).context := by
  rcases glanced_run h (twin_of_readsNoSamples hm) with ⟨t, ht, hs⟩ | ⟨hresults, htwin⟩
  · rw [hsilent t ht] at hs
    cases hs
  · exact ⟨hresults, htwin.context⟩

def noting : Machine :=
  { clocked 0 with
    gestures := Registry.builtIn.register
      { symbol := "note", kind := .omega, behavior := .custom fun call => do
          modify (·.recordTension "note" call.symbol [])
          return .oneOrMany call.args } }

theorem noting_readsNoSamples : noting.ReadsNoSamples where
  gestures symbol g hg := by
    refine Or.inr fun act hact call c c' hc => ?_
    have hg : (Table.insert Registry.builtIn "note" _).get? symbol = some g := hg
    rw [Table.get?_insert_eq] at hg
    split at hg
    · cases hg
      cases hact
      have htacit : Tacit Context.SameButSamples fun _ => False := Context.tacit_sameButSamples
      exact .ok _ (htacit.recordTension hc _ _ _)
    · rw [Registry.isBuiltIn_builtIn symbol g hg] at hact
      cases hact
  recovery := trivial

def notes : List Request :=
  [⟨["why"], .list [.str "Λ", .str "a", .list [.str "note", .str "b"]]⟩,
    ⟨[], .list [.str "Λ", .str "a"]⟩, ⟨[], .list [.str "Ω", .str "a"]⟩]

def watchedNotes : List Action :=
  [.evaluate ["why"] (.list [.str "Λ", .str "a", .list [.str "note", .str "b"]]),
    .mutate .coherence, .mutate .summary, .mutate (.clock 7),
    .evaluate [] (.list [.str "Λ", .str "a"]), .mutate .metadata,
    .evaluate [] (.list [.str "Ω", .str "a"]), .mutate .coherence]

theorem looking_at_notes_changes_no_outcome :
    noting.ReadsNoSamples ∧ Interleaved notes watchedNotes ∧
    (∀ t ∈ trailOf notes noting, t.happening.responds = false) ∧
    (perform watchedNotes noting).context.samples.length =
      (run notes noting).context.samples.length + 4 ∧
    results watchedNotes noting = outcomes notes noting ∧
    (run notes noting).context.SameButSamples (perform watchedNotes noting).context := by
  have hinterleaved : Interleaved notes watchedNotes :=
    .request ⟨_, _⟩ <| .look .coherence <| .look .summary <| .look (.clock 7) <|
      .request ⟨_, _⟩ <| .look .metadata <| .request ⟨_, _⟩ <| .look .coherence .nil
  have hsilent : (trailOf notes noting).all (fun t => !t.happening.responds) = true := by
    decide +kernel
  have hsilent : ∀ t ∈ trailOf notes noting, t.happening.responds = false := by
    simpa using hsilent
  exact ⟨noting_readsNoSamples, hinterleaved, hsilent, by decide +kernel,
    looking_changes_no_outcome noting_readsNoSamples hinterleaved hsilent⟩

end Machine

end GestureGraph
