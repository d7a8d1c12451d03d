import GestureGraph.Proofs.Representation
import GestureGraph.Proofs.Room

namespace GestureGraph

section marks

variable {mark : String} {sep : Char} {a b c d : String}

theorem toList_marked (hmark : mark.toList = [sep]) (a b : String) :
    (a ++ mark ++ b).toList = a.toList ++ sep :: b.toList := by
  simp [hmark]

theorem marked_of_split (hmark : mark.toList = [sep]) {more : List Char}
    (hc : c.toList = a.toList ++ more) (hb : sep :: b.toList = more ++ sep :: d.toList) :
    a = c ∧ b = d ∨ ∃ more, c = a ++ mark ++ more ∧ b = more ++ mark ++ d := by
  cases more with
  | nil =>
      rw [List.append_nil] at hc
      exact Or.inl ⟨String.toList_inj.mp hc.symm, String.toList_inj.mp (List.cons.inj hb).2⟩
  | cons x more =>
      obtain ⟨rfl, hrest⟩ := List.cons.inj hb
      refine Or.inr ⟨String.ofList more, String.toList_inj.mp ?_, String.toList_inj.mp ?_⟩
      · rw [hc, toList_marked hmark, String.toList_ofList]
      · rw [toList_marked hmark, String.toList_ofList]
        exact hrest

theorem marked_eq_iff (hmark : mark.toList = [sep]) : a ++ mark ++ b = c ++ mark ++ d ↔
    a = c ∧ b = d ∨ (∃ more, c = a ++ mark ++ more ∧ b = more ++ mark ++ d) ∨
      ∃ more, a = c ++ mark ++ more ∧ d = more ++ mark ++ b := by
  constructor
  · intro h
    rw [← String.toList_inj, toList_marked hmark, toList_marked hmark,
      List.append_eq_append_iff] at h
    rcases h with ⟨more, hc, hb⟩ | ⟨more, ha, hd⟩
    · exact (marked_of_split hmark hc hb).imp id Or.inl
    · exact (marked_of_split hmark ha hd).imp (fun h => ⟨h.1.symm, h.2.symm⟩) Or.inr
  · rintro (⟨rfl, rfl⟩ | ⟨more, rfl, rfl⟩ | ⟨more, rfl, rfl⟩)
    · rfl
    · simp only [String.append_assoc]
    · simp only [String.append_assoc]

end marks

namespace Relation

/-- One id, two readings: what stands in the target or the kind of the first relation stands in the
source or the target of the second. -/
inductive Blurs (r r' : Relation) : Prop
  | source (more : String) (hsource : r'.source = r.source ++ "→" ++ more)
      (hrest : r.target ++ "(" ++ r.kind = more ++ "→" ++ (r'.target ++ "(" ++ r'.kind))
  | target (more : String) (hsource : r.source = r'.source)
      (htarget : r'.target = r.target ++ "(" ++ more) (hkind : r.kind = more ++ "(" ++ r'.kind)

theorem idOf_eq_iff {source target kind source' target' kind' : String} :
    idOf source target kind = idOf source' target' kind' ↔
      source ++ "→" ++ (target ++ "(" ++ kind) = source' ++ "→" ++ (target' ++ "(" ++ kind') := by
  have heq (source target kind : String) :
      idOf source target kind = source ++ "→" ++ (target ++ "(" ++ kind) ++ ")" := by
    simp [idOf, String.append_assoc, toString]
  rw [heq, heq]
  exact String.append_left_inj ")"

theorem arrow_eq_iff {a b c d : String} : a ++ "→" ++ b = c ++ "→" ++ d ↔
    a = c ∧ b = d ∨ (∃ more, c = a ++ "→" ++ more ∧ b = more ++ "→" ++ d) ∨
      ∃ more, a = c ++ "→" ++ more ∧ d = more ++ "→" ++ b :=
  marked_eq_iff (show "→".toList = ['→'] from rfl)

theorem paren_eq_iff {a b c d : String} : a ++ "(" ++ b = c ++ "(" ++ d ↔
    a = c ∧ b = d ∨ (∃ more, c = a ++ "(" ++ more ∧ b = more ++ "(" ++ d) ∨
      ∃ more, a = c ++ "(" ++ more ∧ d = more ++ "(" ++ b :=
  marked_eq_iff (show "(".toList = ['('] from rfl)

variable {r r' : Relation}

theorem Blurs.id_eq (h : r.Blurs r') :
    idOf r.source r.target r.kind = idOf r'.source r'.target r'.kind := by
  rw [idOf_eq_iff, arrow_eq_iff]
  cases h with
  | source more hsource hrest => exact Or.inr (Or.inl ⟨more, hsource, hrest⟩)
  | target more hsource htarget hkind =>
      exact Or.inl ⟨hsource, paren_eq_iff.mpr (Or.inr (Or.inl ⟨more, htarget, hkind⟩))⟩

theorem blurs_of_id_eq (h : idOf r.source r.target r.kind = idOf r'.source r'.target r'.kind)
    (hne : (r.source, r.target) ≠ (r'.source, r'.target)) : r.Blurs r' ∨ r'.Blurs r := by
  rw [idOf_eq_iff, arrow_eq_iff] at h
  rcases h with ⟨hsource, hrest⟩ | ⟨more, hsource, hrest⟩ | ⟨more, hsource, hrest⟩
  · rcases paren_eq_iff.mp hrest with ⟨htarget, _⟩ | ⟨more, htarget, hkind⟩ |
      ⟨more, htarget, hkind⟩
    · exact absurd (Prod.ext hsource htarget) hne
    · exact Or.inl (.target more hsource htarget hkind)
    · exact Or.inr (.target more hsource.symm htarget hkind)
  · exact Or.inl (.source more hsource hrest)
  · exact Or.inr (.source more hsource hrest)

theorem not_blurs (hsource : '→' ∉ r'.source.toList) (htarget : '(' ∉ r'.target.toList) :
    ¬ r.Blurs r' := by
  rintro (⟨more, hs, _⟩ | ⟨more, _, ht, _⟩)
  · exact hsource (by simp [hs])
  · exact htarget (by simp [ht])

end Relation

namespace Context

variable {c : Context} {source target source' target' : String} {r r' : Relation}

theorem WellFormed.id_eq_iff (hc : c.WellFormed) (hr : c.relation? source target = some r)
    (hr' : c.relation? source' target' = some r') (hne : (source, target) ≠ (source', target')) :
    r.id = r'.id ↔ r.Blurs r' ∨ r'.Blurs r := by
  obtain ⟨rfl, rfl, hid, -, -, -, -⟩ := hc.relations _ _ _ hr
  obtain ⟨rfl, rfl, hid', -, -, -, -⟩ := hc.relations _ _ _ hr'
  rw [hid, hid']
  constructor
  · exact fun h => Relation.blurs_of_id_eq h hne
  · rintro (h | h)
    · exact h.id_eq
    · exact h.id_eq.symm

theorem relation?_withRelation (c : Context) (source target kind : String) (attrs : Attributes)
    (source' target' : String) :
    (c.withRelation source target kind attrs).relation? source' target' =
      if (⟨source', target'⟩ : Ends) = ⟨source, target⟩ then
        some (c.relationOf source target kind attrs)
      else c.relation? source' target' := by
  obtain ⟨samples, coherence, h⟩ := c.withRelation_eq source target kind attrs
  rw [h]
  exact Table.get?_insert_eq _ _ _ _

end Context

namespace Machine

theorem id_eq_iff_blurs {name : String} {axioms : Axioms} {now : Nat} {c : Context}
    (h : Context.create name axioms now = .ok c) {actions : List Action}
    (ha : ∀ a ∈ actions, a.Lawful Tame) {m : Machine} (hm : m ∈ stations actions { context := c })
    {source target source' target' : String} {r r' : Relation}
    (hr : m.context.relation? source target = some r)
    (hr' : m.context.relation? source' target' = some r')
    (hne : (source, target) ≠ (source', target')) :
    (r.source, r.target) = (source, target) ∧ (r'.source, r'.target) = (source', target') ∧
      (r.id = r'.id ↔ r.Blurs r' ∨ r'.Blurs r) ∧
      ('→' ∉ source.toList → '→' ∉ source'.toList → '(' ∉ target.toList → '(' ∉ target'.toList →
        r.id ≠ r'.id) := by
  have hcreated := (Context.wellFormed_bare name axioms now).reaches (Context.reaches_of_create h)
  have hc := hcreated.reaches (reaches_stations ha hm)
  have hiff := hc.id_eq_iff hr hr' hne
  obtain ⟨rfl, rfl, -, -, -, -, -⟩ := hc.relations _ _ _ hr
  obtain ⟨rfl, rfl, -, -, -, -, -⟩ := hc.relations _ _ _ hr'
  refine ⟨rfl, rfl, hiff, fun hs hs' ht ht' => hiff.not.mpr (not_or.mpr ⟨?_, ?_⟩)⟩
  · exact Relation.not_blurs hs' ht'
  · exact Relation.not_blurs hs ht

theorem context_addRelation_of_room {m : Machine} {touched : List String} {source target : String}
    (h : m.context.HasRoom touched) (hs : source ∈ touched) (ht : target ∈ touched)
    (kind : String) (attrs : Attributes) : ∃ c : Context,
      ((Action.mutate (.addRelation source target kind attrs)).apply m).context =
        c.withRelation source target kind attrs ∧
      c.HasRoom touched ∧ c.graph.edges = m.context.graph.edges := by
  obtain ⟨c, hadd, hc, hedges⟩ := Context.addRelation_of_room h hs ht kind attrs
  have hrun : (Mutation.addRelation source target kind attrs).run m.context =
      .ok () (c.withRelation source target kind attrs) := bind_of_ok hadd _
  exact ⟨c, by rw [Action.after_mutate, hrun, after_ok], hc, hedges⟩

def twins (source target source' target' : String) : List Action :=
  [.mutate (.addRelation source target "Λ" {}), .mutate (.addRelation source' target' "Λ" {})]

section twins

variable {c : Context} {source target source' target' : String}

theorem lawful_twins : ∀ a ∈ twins source target source' target', a.Lawful Tame := by
  intro a ha
  rcases List.mem_pair.mp ha with rfl | rfl
  · trivial
  · trivial

theorem relations_of_twins (h : Context.create "twins" .builtIn 0 = .ok c)
    (hne : (source, target) ≠ (source', target')) :
    let c' := (perform (twins source target source' target') { context := c }).context
    ∃ r r', c'.relation? source target = some r ∧ c'.relation? source' target' = some r' ∧
      r.id = Relation.idOf source target "Λ" ∧ r'.id = Relation.idOf source' target' "Λ" := by
  have hlimit : c.axioms.limits.entities = 10000 := by
    rw [(Context.reaches_of_create h).frame.2.2]
    rfl
  have hcount := Context.nodeCount_of_create_le h
  have hroom : c.HasRoom [source, target, source', target'] := by
    refine Context.hasRoom_of_length ?_
    simp only [List.length_cons, List.length_nil]
    omega
  have hfirst : ({ context := c } : Machine).context.HasRoom _ := hroom
  obtain ⟨c₁, h₁, hroom₁, _⟩ :=
    context_addRelation_of_room hfirst (show source ∈ _ by simp) (show target ∈ _ by simp) "Λ" {}
  have hsecond := hroom₁.withRelation source target "Λ" {}
  rw [← h₁] at hsecond
  obtain ⟨c₂, h₂, _, hedges⟩ := context_addRelation_of_room hsecond
    (show source' ∈ _ by simp) (show target' ∈ _ by simp) "Λ" {}
  have hkept : c₂.relation? source target = some (c₁.relationOf source target "Λ" {}) := by
    rw [Context.relation?, hedges, h₁]
    exact (c₁.relation?_withRelation source target "Λ" {} source target).trans (if_pos rfl)
  have hends : (⟨source, target⟩ : Ends) ≠ ⟨source', target'⟩ := by
    simpa [Ends.mk.injEq, Prod.mk.injEq] using hne
  refine ⟨c₁.relationOf source target "Λ" {}, c₂.relationOf source' target' "Λ" {}, ?_, ?_,
    rfl, rfl⟩
  · exact (congrArg (·.relation? source target) h₂).trans
      ((c₂.relation?_withRelation ..).trans ((if_neg hends).trans hkept))
  · exact (congrArg (·.relation? source' target') h₂).trans
      ((c₂.relation?_withRelation ..).trans (if_pos rfl))

end twins

theorem id_of_turned_differs : ∃ c, Context.create "twins" .builtIn 0 = .ok c ∧
    ∃ r r', (perform (twins "a" "b" "b" "a") { context := c }).context.relation? "a" "b" = some r ∧
      (perform (twins "a" "b" "b" "a") { context := c }).context.relation? "b" "a" = some r' ∧
      r.id ≠ r'.id ∧ ¬ r.Blurs r' ∧ ¬ r'.Blurs r := by
  obtain ⟨c, hc⟩ := Context.create_of_room "twins" 0
    (show 6 ≤ Axioms.builtIn.limits.entities by decide)
  have hne : ("a", "b") ≠ ("b", "a") := by decide
  obtain ⟨r, r', hr, hr', _⟩ := relations_of_twins hc hne
  obtain ⟨_, _, hiff, hplain⟩ :=
    id_eq_iff_blurs hc lawful_twins (perform_mem_stations _ _) hr hr' hne
  have hid : r.id ≠ r'.id := hplain (by decide) (by decide) (by decide) (by decide)
  exact ⟨c, hc, r, r', hr, hr', hid, not_or.mp (hiff.not.mp hid)⟩

theorem twins_share_id : ∃ c, Context.create "twins" .builtIn 0 = .ok c ∧
    (∀ a ∈ twins "a→b" "c" "a" "b→c", a.Lawful Tame) ∧
    ∃ m ∈ stations (twins "a→b" "c" "a" "b→c") { context := c },
      ∃ r r', m.context.relation? "a→b" "c" = some r ∧ m.context.relation? "a" "b→c" = some r' ∧
        ("a→b", "c") ≠ ("a", "b→c") ∧ r.id = r'.id := by
  obtain ⟨c, hc⟩ := Context.create_of_room "twins" 0
    (show 6 ≤ Axioms.builtIn.limits.entities by decide)
  have hne : ("a→b", "c") ≠ ("a", "b→c") := by decide
  obtain ⟨r, r', hr, hr', hid, hid'⟩ := relations_of_twins hc hne
  have hsame : Relation.idOf "a→b" "c" "Λ" = Relation.idOf "a" "b→c" "Λ" := by decide
  exact ⟨c, hc, lawful_twins, _, perform_mem_stations _ _, r, r', hr, hr', hne,
    hid.trans (hsame.trans hid'.symm)⟩

end Machine

end GestureGraph
