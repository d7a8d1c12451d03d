import GestureGraph.Proofs.Parallel

namespace GestureGraph

structure Axioms.Raised (a a' : Axioms) : Prop where
  recursionDepth : a.limits.recursionDepth ≤ a'.limits.recursionDepth
  entities : a.limits.entities ≤ a'.limits.entities

def Entity.untimed (e : Entity) : Entity := { e with createdAt := 0 }

namespace Context

def essence (c : Context) : Context :=
  { c with
    createdAt := 0
    now := 0
    axioms := ⟨{}, [], {}, {}⟩
    graph := { c.graph with nodes := c.graph.nodes.map Entity.untimed } }

variable (c : Context)

theorem contains_essence (name : String) : c.essence.contains name = c.contains name :=
  Table.contains_map _ _ _

theorem nodeCount_essence : c.essence.nodeCount = c.nodeCount := by
  simp [essence, nodeCount, Table.size, Table.map]

theorem isolatedCount_essence : c.essence.graph.isolatedCount = c.graph.isolatedCount := by
  have hkeys : c.essence.graph.nodes.keys = c.graph.nodes.keys := by
    simp [essence, Table.keys, Table.map]
  rw [Graph.isolatedCount_eq, Graph.isolatedCount_eq, hkeys]
  rfl

theorem measure_essence : c.essence.measure = c.measure :=
  congrArg₂ (coherenceOf · · c.tensions.length) c.nodeCount_essence c.isolatedCount_essence

theorem response_essence (prompt : String) :
    Call.response c.essence prompt = Call.response c prompt := by
  have hname : c.essence.name = c.name := rfl
  have hedges : c.essence.edgeCount = c.edgeCount := rfl
  have htrend : c.essence.trend = c.trend := rfl
  have hblind : c.essence.blindSpots = c.blindSpots := rfl
  have hnodes := c.nodeCount_essence
  have hmeasure := c.measure_essence
  -- Where terms are compared in full, the count of isolated entities would be evaluated.
  generalize c.essence = c' at hname hedges htrend hblind hnodes hmeasure ⊢
  unfold Call.response
  rw [hname, hnodes, hedges, hmeasure, htrend, hblind]

theorem essence_keepSample (coherence : Float) :
    (c.keepSample coherence).essence = c.essence.keepSample coherence := by
  have hempty : c.essence.graph.nodes.isEmpty = c.graph.nodes.isEmpty := by
    simp [essence, Table.isEmpty, Table.map]
  simp only [keepSample, hempty]
  split <;> rfl

theorem essence_sampled : c.sampled.essence = c.essence.sampled := by
  rw [sampled, sampled, essence_keepSample, measure_essence]

def noted (note : Note) (before : Float) : Context :=
  { c.keepSample c.measure with events := c.events ++ [note.event before c.measure] }

theorem essence_noted (note : Note) (before : Float) :
    (c.noted note before).essence = c.essence.noted note before := by
  rw [noted, noted, measure_essence, ← essence_keepSample]
  rfl

theorem essence_record (note : Note) {change change' : Context → Context}
    (h : ∀ c, (change c).essence = change' c.essence) :
    (c.record note change).essence = c.essence.record note change' := by
  have hchanged : (change (c.keepSample c.measure)).essence =
      change' (c.essence.keepSample c.essence.measure) := by
    rw [h, essence_keepSample, measure_essence]
  calc (c.record note change).essence
      = (noted (change (c.keepSample c.measure)) note c.measure).essence := rfl
    _ = noted (change' (c.essence.keepSample c.essence.measure)) note c.measure := by
        rw [essence_noted, hchanged]
    _ = c.essence.record note change' := by
        rw [← measure_essence c]
        rfl

theorem essence_withEntity (name : String) (attrs : Attributes) :
    (c.withEntity name attrs).essence = c.essence.withEntity name attrs := by
  refine essence_record _ _ fun c' => ?_
  simp only [setGraph, essence, Table.map_insert, Table.get?_map]
  cases c'.graph.nodes.get? name <;> rfl

theorem essence_withRelation (source target kind : String) (attrs : Attributes) :
    (c.withRelation source target kind attrs).essence =
      c.essence.withRelation source target kind attrs := essence_record _ _ fun _ => rfl

def modifyEntity (name : String) (f : Entity → Entity) : Context → Context :=
  setGraph fun g => { g with nodes := g.nodes.modify name f }

theorem essence_modifyEntity (name : String) {f : Entity → Entity}
    (h : ∀ e, (f e).untimed = f e.untimed) :
    (c.modifyEntity name f).essence = c.essence.modifyEntity name f := by
  simp only [modifyEntity, setGraph, essence, Table.map_modify _ _ h]

theorem essence_withAttributes (name : String) (attrs : Attributes) :
    (c.withAttributes name attrs).essence = c.essence.withAttributes name attrs :=
  essence_record _ _ fun c' => c'.essence_modifyEntity name fun _ => rfl

theorem essence_registerBlindSpot (key description : String) :
    (c.registerBlindSpot key description).essence =
      c.essence.registerBlindSpot key description := essence_record _ _ fun _ => rfl

theorem essence_recordTension (kind description : String) (entities : List String) :
    (c.recordTension kind description entities).essence =
      c.essence.recordTension kind description entities := essence_record _ _ fun _ => rfl

theorem essence_recordDialogue (prompt response : String) (intentions : List String) :
    (c.recordDialogue prompt response intentions).essence =
      c.essence.recordDialogue prompt response intentions := by
  rw [recordDialogue, recordDialogue, measure_essence]
  exact essence_record _ _ fun _ => rfl

theorem essence_setLifecycle? (name status : String) (intentions : List String) :
    (c.setLifecycle? name status intentions).map essence =
      c.essence.setLifecycle? name status intentions := by
  simp only [setLifecycle?, contains_essence]
  split
  · exact congrArg some (essence_record _ _ fun c' => c'.essence_modifyEntity name fun _ => rfl)
  · rfl

theorem axioms_keepSample (coherence : Float) : (c.keepSample coherence).axioms = c.axioms := by
  obtain ⟨samples, h⟩ := c.keepSample_eq coherence
  rw [h]

theorem axioms_record (note : Note) {change : Context → Context}
    (h : ∀ c, (change c).axioms = c.axioms) : (c.record note change).axioms = c.axioms := by
  show ((change (c.keepSample c.measure)).keepSample _).axioms = c.axioms
  rw [axioms_keepSample, h, axioms_keepSample]

structure Essential (f : Context → Context) : Prop where
  essence : ∀ c, (f c).essence = f c.essence
  axioms : ∀ c, (f c).axioms = c.axioms

theorem essential_withEntity (name : String) (attrs : Attributes) :
    Essential (·.withEntity name attrs) :=
  ⟨fun c => c.essence_withEntity name attrs, fun _ => axioms_record _ _ fun _ => rfl⟩

theorem essential_withRelation (source target kind : String) (attrs : Attributes) :
    Essential (·.withRelation source target kind attrs) :=
  ⟨fun c => c.essence_withRelation source target kind attrs,
    fun _ => axioms_record _ _ fun _ => rfl⟩

theorem essential_withAttributes (name : String) (attrs : Attributes) :
    Essential (·.withAttributes name attrs) :=
  ⟨fun c => c.essence_withAttributes name attrs, fun _ => axioms_record _ _ fun _ => rfl⟩

theorem essential_registerBlindSpot (key description : String) :
    Essential (·.registerBlindSpot key description) :=
  ⟨fun c => c.essence_registerBlindSpot key description,
    fun _ => axioms_record _ _ fun _ => rfl⟩

theorem essential_recordTension (kind description : String) (entities : List String) :
    Essential (·.recordTension kind description entities) :=
  ⟨fun c => c.essence_recordTension kind description entities,
    fun _ => axioms_record _ _ fun _ => rfl⟩

theorem essential_recordDialogue (prompt response : String) (intentions : List String) :
    Essential (·.recordDialogue prompt response intentions) :=
  ⟨fun c => c.essence_recordDialogue prompt response intentions,
    fun _ => axioms_record _ _ fun _ => rfl⟩

theorem essential_sampled : Essential sampled :=
  ⟨fun c => c.essence_sampled, fun c => c.axioms_keepSample c.measure⟩

structure Agree (L : Axioms → Axioms → Prop) (c c' : Context) : Prop where
  essence : c'.essence = c.essence
  axioms : L c.axioms c'.axioms

variable {L : Axioms → Axioms → Prop} {c c' : Context}

theorem Agree.change (h : Agree L c c') {f : Context → Context} (hf : Essential f) :
    Agree L (f c) (f c') where
  essence := by rw [hf.essence, hf.essence, h.essence]
  axioms := by
    rw [hf.axioms, hf.axioms]
    exact h.axioms

theorem Agree.setLifecycle? (h : Agree L c c') (name status : String) (intentions : List String) :
    Option.Rel (Agree L) (c.setLifecycle? name status intentions)
      (c'.setLifecycle? name status intentions) := by
  have hessence : (c'.setLifecycle? name status intentions).map Context.essence =
      (c.setLifecycle? name status intentions).map Context.essence := by
    rw [essence_setLifecycle?, essence_setLifecycle?, h.essence]
  cases hc : c.setLifecycle? name status intentions with
  | none =>
      rw [hc] at hessence
      rw [Option.map_eq_none_iff.mp hessence]
      exact .none
  | some t =>
      rw [hc] at hessence
      obtain ⟨t', hc', ht'⟩ := Option.map_eq_some_iff.mp hessence
      rw [hc']
      obtain ⟨_, _, _, ht⟩ := c.setLifecycle?_eq hc
      obtain ⟨_, _, _, hs⟩ := c'.setLifecycle?_eq hc'
      refine .some ⟨ht', ?_⟩
      rw [ht, hs]
      exact h.axioms

theorem Agree.response (h : Agree L c c') (prompt : String) :
    Call.response c' prompt = Call.response c prompt := by
  rw [← response_essence, h.essence, response_essence]

theorem steady_agree {excused : EvalError → Prop} (hraised : ∀ a a', L a a' → a.Raised a')
    (hrefused : ∀ a a', L a a' → (∀ e, excused (.limit e)) ∨ a' = a) :
    Steady (Agree L) excused where
  contains h name := by rw [← contains_essence, h.essence, contains_essence]
  nodeCount h := by rw [← nodeCount_essence, h.essence, nodeCount_essence]
  entities_granted h count hc := by
    have hle := Limits.checkEntities_eq_ok_iff.mp hc
    exact Limits.checkEntities_eq_ok_iff.mpr (Nat.le_trans hle (hraised _ _ h.axioms).entities)
  entities_refused h count e hc := by
    rcases hrefused _ _ h.axioms with hall | heq
    · exact Or.inl (hall e)
    · exact Or.inr (heq ▸ hc)
  depth_granted h depth hd := by
    have hle := Limits.checkDepth_eq_ok_iff.mp hd
    exact Limits.checkDepth_eq_ok_iff.mpr 
      (Nat.le_trans hle (hraised _ _ h.axioms).recursionDepth)
  depth_refused h depth e hd := by
    rcases hrefused _ _ h.axioms with hall | heq
    · exact Or.inl (hall e)
    · exact Or.inr (heq ▸ hd)
  withEntity h name attrs := h.change (essential_withEntity name attrs)
  withRelation h source target kind attrs :=
    h.change (essential_withRelation source target kind attrs)
  withAttributes h name attrs := h.change (essential_withAttributes name attrs)
  recordTension h kind description entities :=
    h.change (essential_recordTension kind description entities)
  recordDialogue h prompt response intentions :=
    h.change (essential_recordDialogue prompt response intentions)
  setLifecycle? h name status intentions := h.setLifecycle? name status intentions
  response h := h.response

end Context

end GestureGraph
