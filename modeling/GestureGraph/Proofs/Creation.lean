import GestureGraph.Proofs.Alteration

namespace GestureGraph.Context

theorem does_withRequired (c : Context) : c.Does c.withRequired := by
  refine List.foldlRecOn (motive := fun c' : Context => c.Does c')
    c.axioms.blindSpots.entries _ .refl ?_
  rintro c' hc' ⟨key, text⟩ _
  exact hc'.tail (c'.deed_registerBlindSpot key text)

theorem nodeCount_withRequired (c : Context) : c.withRequired.nodeCount = c.nodeCount := by
  refine List.foldlRecOn (motive := fun c' : Context => c'.nodeCount = c.nodeCount)
    c.axioms.blindSpots.entries _ rfl ?_
  rintro c' hc' ⟨key, text⟩ _
  obtain ⟨samples, coherence, h⟩ := c'.registerBlindSpot_eq key text
  show (c'.registerBlindSpot key text).nodeCount = c.nodeCount
  rw [h]
  exact hc'

theorem nodeCount_withEntity_le (c : Context) (name : String) (attrs : Attributes) :
    (c.withEntity name attrs).nodeCount ≤ c.nodeCount + 1 := by
  obtain ⟨samples, coherence, h⟩ := c.withEntity_eq name attrs
  simp only [h, nodeCount, Table.size_insert]
  split <;> omega

theorem addEntity_of_room {c : Context} (room : c.nodeCount + 1 ≤ c.axioms.limits.entities)
    (name : String) (attrs : Attributes) :
    addEntity name attrs c = .ok name (c.withEntity name attrs) := by
  simp only [addEntity, Limits.checkEntities_eq_ok_iff.mpr room]

def nameOperators (ops : List Operator) : Change Unit :=
  ops.forM fun op => discard (addEntity op.glyph (operatorAttributes op))

theorem nameOperators_cons_of_ok {op : Operator} {c : Context}
    (h : addEntity op.glyph (operatorAttributes op) c =
      .ok op.glyph (c.withEntity op.glyph (operatorAttributes op))) (ops : List Operator) :
    nameOperators (op :: ops) c =
      nameOperators ops (c.withEntity op.glyph (operatorAttributes op)) := by
  have hd : discard (addEntity op.glyph (operatorAttributes op)) c =
      .ok () (c.withEntity op.glyph (operatorAttributes op)) := bind_of_ok h _
  exact bind_of_ok hd _

theorem keeps_nameOperators (ops : List Operator) : Keeps Does (nameOperators ops) :=
  keeps_forM ops fun _ _ => keeps_discard (keeps_addEntity _ _)

theorem nameOperators_of_room (ops : List Operator) {c : Context}
    (room : c.nodeCount + ops.length ≤ c.axioms.limits.entities) :
    ∃ c', nameOperators ops c = .ok () c' := by
  induction ops generalizing c with
  | nil => exact ⟨c, rfl⟩
  | cons op rest ih =>
      rw [List.length_cons] at room
      have hroom : c.nodeCount + 1 ≤ c.axioms.limits.entities := by omega
      have hle := c.nodeCount_withEntity_le op.glyph (operatorAttributes op)
      have haxioms := (Alteration.entity c op.glyph (operatorAttributes op) hroom).frame.2.2
      rw [nameOperators_cons_of_ok (addEntity_of_room hroom _ _)]
      apply ih
      rw [haxioms]
      omega

theorem nameOperators_of_cons {op : Operator} {ops : List Operator} {c c' : Context}
    (h : nameOperators (op :: ops) c = .ok () c') :
    nameOperators ops (c.withEntity op.glyph (operatorAttributes op)) = .ok () c' := by
  rcases addEntity_cases op.glyph (operatorAttributes op) c with ⟨he, _⟩ | ⟨e, he⟩
  · rwa [nameOperators_cons_of_ok he] at h
  · have hd : discard (addEntity op.glyph (operatorAttributes op)) c = .error e c :=
      bind_of_error he _
    have herr : nameOperators (op :: ops) c = .error e c := bind_of_error hd _
    rw [herr] at h
    cases h

theorem does_of_nameOperators {ops : List Operator} {c c' : Context}
    (h : nameOperators ops c = .ok () c') : c.Does c' := by
  have hops := keeps_nameOperators ops c
  rwa [h] at hops

theorem contains_of_nameOperators {ops : List Operator} {c c' : Context}
    (h : nameOperators ops c = .ok () c') {op : Operator} (hop : op ∈ ops) :
    c'.contains op.glyph = true := by
  induction ops generalizing c with
  | nil => cases hop
  | cons first rest ih =>
      have hrest := nameOperators_of_cons h
      rcases List.mem_cons.mp hop with rfl | hop
      · exact (does_of_nameOperators hrest).reaches.contains (c.contains_withEntity _ _)
      · exact ih hrest hop

theorem nodeCount_of_nameOperators_le {ops : List Operator} {c c' : Context}
    (h : nameOperators ops c = .ok () c') : c'.nodeCount ≤ c.nodeCount + ops.length := by
  induction ops generalizing c with
  | nil =>
      cases h
      exact Nat.le_refl _
  | cons op rest ih =>
      have hrest := ih (nameOperators_of_cons h)
      have hle := c.nodeCount_withEntity_le op.glyph (operatorAttributes op)
      rw [List.length_cons]
      omega

variable {name : String} {axioms : Axioms} {now : Nat} {c : Context}

theorem nameOperators_of_create (h : create name axioms now = .ok c) :
    nameOperators Operator.all (bare name axioms now).withRequired = .ok () c := by
  have heq : addOperators = nameOperators Operator.all := rfl
  simp only [create, heq] at h
  cases ha : nameOperators Operator.all (bare name axioms now).withRequired with
  | ok a c' =>
      rw [ha] at h
      cases h
      rfl
  | error e c' =>
      rw [ha] at h
      cases h

theorem does_of_create (h : create name axioms now = .ok c) : (bare name axioms now).Does c :=
  (does_withRequired _).trans (does_of_nameOperators (nameOperators_of_create h))

theorem reaches_of_create (h : create name axioms now = .ok c) :
    (bare name axioms now).Reaches c := (does_of_create h).reaches

theorem contains_of_create (h : create name axioms now = .ok c) (op : Operator) :
    c.contains op.glyph = true :=
  contains_of_nameOperators (nameOperators_of_create h) op.mem_all

theorem nodeCount_of_create_le (h : create name axioms now = .ok c) : c.nodeCount ≤ 6 := by
  have hle := nodeCount_of_nameOperators_le (nameOperators_of_create h)
  rw [nodeCount_withRequired] at hle
  exact hle

theorem create_of_room (name : String) (now : Nat) (room : 6 ≤ axioms.limits.entities) :
    ∃ c, create name axioms now = .ok c := by
  have haxioms := (does_withRequired (bare name axioms now)).reaches.frame.2.2
  have hroom : (bare name axioms now).withRequired.nodeCount + Operator.all.length ≤
      (bare name axioms now).withRequired.axioms.limits.entities := by
    rw [haxioms, nodeCount_withRequired]
    exact room
  obtain ⟨c, hc⟩ := nameOperators_of_room Operator.all hroom
  have hops : addOperators (bare name axioms now).withRequired = .ok () c := hc
  exact ⟨c, by simp only [create, hops]⟩

end GestureGraph.Context
