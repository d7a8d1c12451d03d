import GestureGraph.Proofs.Attributes
import GestureGraph.Proofs.Decision
import GestureGraph.Proofs.Ties

namespace GestureGraph

namespace Tie

def links (kind : String) (attrs : Attributes) (names : List String) : List Tie :=
  (names.zip names.tail).map fun (source, target) => ⟨source, target, kind, attrs⟩

def fan (kind target : String) (names : List String) : List Tie :=
  names.map fun name => ⟨name, target, kind, {}⟩

theorem links_cons_cons (kind : String) (attrs : Attributes) (source target : String)
    (rest : List String) :
    links kind attrs (source :: target :: rest) =
      ⟨source, target, kind, attrs⟩ :: links kind attrs (target :: rest) := rfl

theorem fan_cons (kind target name : String) (rest : List String) :
    fan kind target (name :: rest) = ⟨name, target, kind, {}⟩ :: fan kind target rest := rfl

theorem length_links (kind : String) (attrs : Attributes) (names : List String) :
    (links kind attrs names).length = names.length - 1 := by
  simp [links]

theorem length_fan (kind target : String) (names : List String) :
    (fan kind target names).length = names.length := List.length_map _

theorem namesOf_links_cons (kind : String) (attrs : Attributes) (first second : String)
    (rest : List String) :
    namesOf (links kind attrs (first :: second :: rest)) = (first :: second :: rest).toFinset := by
  induction rest generalizing first second with
  | nil => rfl
  | cons third rest ih =>
      rw [links_cons_cons, namesOf_cons, ih]
      ext name
      simp [names]
      tauto

theorem namesOf_links {names : List String} (h : 2 ≤ names.length) (kind : String)
    (attrs : Attributes) : namesOf (links kind attrs names) = names.toFinset := by
  rcases names with _ | ⟨first, _ | ⟨second, rest⟩⟩
  · simp at h
  · simp at h
  · exact namesOf_links_cons kind attrs first second rest

theorem union_namesOf_fan (kind target : String) (names : List String) :
    {target} ∪ namesOf (fan kind target names) = insert target names.toFinset := by
  induction names with
  | nil => rfl
  | cons name rest ih =>
      rw [fan_cons, namesOf_cons, Finset.union_left_comm, ih]
      ext other
      simp [names]
      tauto

end Tie

open Context

section

variable {call : Call} {names : List String} {c t : Context}

theorem grown_of_chain {kind : String} {attrs : Attributes} {ids : List Value}
    (h : Call.chain kind attrs names c = .ok ids t) :
    c.Grown t (Tie.namesOf (Tie.links kind attrs names)) (Tie.links kind attrs names) := by
  fun_induction Call.chain kind attrs names generalizing c ids with
  | case1 source target rest ih =>
      obtain ⟨_, c₁, hadd, hrest⟩ := ok_of_bind h
      obtain ⟨_, c₂, hrest, hids⟩ := ok_of_bind hrest
      cases hids
      have hall := (grown_of_addRelation hadd).trans (ih hrest)
      rw [Tie.links_cons_cons, Tie.namesOf_cons]
      simpa [Tie.names] using hall
  | case2 names hnames =>
      cases h
      have hlinks : Tie.links kind attrs names = [] := by
        rcases names with _ | ⟨source, _ | ⟨target, rest⟩⟩
        · rfl
        · rfl
        · exact absurd rfl (hnames source target rest)
      rw [hlinks]
      exact Grown.refl _

theorem grown_of_gather {kind target : String} (h : Call.gather kind target names c = .ok () t) :
    c.Grown t (Tie.namesOf (Tie.fan kind target names)) (Tie.fan kind target names) := by
  induction names generalizing c with
  | nil =>
      cases h
      exact Grown.refl _
  | cons name rest ih =>
      obtain ⟨_, c₁, hadd, hrest⟩ := ok_of_bind h
      obtain ⟨id, hadd⟩ := ok_of_discard hadd
      have hall := (grown_of_addRelation hadd).trans (ih hrest)
      rw [Tie.fan_cons, Tie.namesOf_cons]
      simpa [Tie.names] using hall

theorem Context.Effect.gather {u : Context} {entityOf : String → Entity} {kind target : String}
    {count : Nat} (h : Effect c t {target} entityOf [] count)
    (hg : Call.gather kind target names t = .ok () u) :
    Effect c u (insert target names.toFinset) entityOf (Tie.fan kind target names)
      (count + ((c.absent names).erase target).card + names.length) := by
  have hall := h.trans (grown_of_gather hg)
  have hcount : Tie.namesOf (Tie.fan kind target names) \ t.population =
      (c.absent names).erase target := by
    ext other
    have hother := Finset.ext_iff.mp (Tie.union_namesOf_fan kind target names) other
    simp only [h.population, absent, Finset.mem_union, Finset.mem_insert, Finset.mem_singleton,
      Finset.mem_sdiff, Finset.mem_erase] at hother ⊢
    tauto
  rw [Tie.union_namesOf_fan, h.named, hcount, Tie.length_fan, ← Nat.add_assoc] at hall
  exact hall

theorem ok_of_room {α : Type} {a : α} {x : Act α} {touched : List String}
    (h : ((ensureRoom touched).act >>= fun _ => x) c = .ok a t) : x c = .ok a t := by
  obtain ⟨_, c₀, hroom, hx⟩ := ok_of_bind h
  obtain rfl := ok_of_ensureRoom (Change.ok_of_act hroom)
  exact hx

theorem effect_of_enrich {name id : String} {attrs : Attributes}
    (h : Context.enrich name attrs c = .ok id t) :
    Effect c t {name}
      (Function.update c.named name ((c.named name).merge attrs.withoutIntentions)) []
      ((if c.contains name then 0 else 1) + 1) := by
  obtain ⟨_, c₁, hname, henrich⟩ := ok_of_bind h
  cases henrich
  have hgrown := grown_of_addMissing hname
  have hmem : name ∈ c₁.population := by simp [hgrown.population]
  have hall := Effect.trans hgrown (effect_withAttributes (mem_population.mp hmem) attrs)
  rwa [hgrown.named, card_newcomer] at hall

end

namespace Call

variable {call : Call} {names : List String} {c t : Context} {v : Value}

theorem withoutIntentions_attributes (call : Call) (skip : List String) :
    (call.attributes skip).withoutIntentions =
      Attributes.withoutIntentions
        (.ofList (call.keywords.entries.filter fun e => !skip.contains e.1)) := by
  rw [attributes]
  split
  · rfl
  · apply Table.ext_get?
    intro key
    rw [Attributes.get?_withoutIntentions, Attributes.get?_withoutIntentions, Table.get?_insert_eq]
    split
    · rfl
    · rfl

theorem relate_of_perform {op : Operator} {least : Nat} (hop : Relating op least)
    (hnames : call.args.map Value.name? = names.map some) (h : call.perform op c = .ok v t) :
    least ≤ names.length ∧ call.relate names op c = .ok v t := by
  have hlength : call.args.length = names.length := by simpa using congrArg List.length hnames
  rcases call.requireOperands_cases least c with ⟨hargs, _⟩ | ⟨e, he⟩
  · exact ⟨hlength ▸ hargs, perform_of_names hop hargs hnames c ▸ h⟩
  · rw [perform_eq_relate call hop, bind_of_error he] at h
    cases h

theorem effect_of_lambda (hlength : 2 ≤ names.length)
    (h : call.relate names .lambda c = .ok v t) :
    Effect c t names.toFinset c.named
      (Tie.links ((call.keywordName? "type").getD Relation.defaultKind) (call.attributes ["type"])
        names)
      ((c.absent names).card + (names.length - 1)) := by
  obtain ⟨ids, c₁, hchain, hact⟩ := ok_of_bind (ok_of_room h)
  cases hact
  have hgrown := grown_of_chain (Change.ok_of_act hchain)
  rw [Grown, Tie.namesOf_links hlength, Tie.length_links] at hgrown
  exact hgrown

theorem effect_of_sigma {name : String}
    (hname : name = (call.keywordName? "name").getD (synthesisName names))
    (h : call.relate names .sigma c = .ok v t) :
    Effect c t (insert name names.toFinset)
      (Function.update c.named name
        ((c.named name).merge (call.synthesis names).withoutIntentions))
      (Tie.fan "Σ" name names)
      (1 + ((c.absent names).erase name).card + names.length) := by
  subst hname
  obtain ⟨_, c₁, hdiscard, hact⟩ := ok_of_bind (ok_of_room h)
  obtain ⟨_, c₂, hgather, hact⟩ := ok_of_bind hact
  cases hact
  obtain ⟨_, hadd⟩ := ok_of_discard hdiscard
  obtain rfl := ok_of_addEntity (Change.ok_of_act hadd)
  exact (effect_withEntity _ _ _).gather (Change.ok_of_act hgather)

theorem effect_of_nabla {target : String} {sources : List String}
    (h : call.relate (target :: sources) .nabla c = .ok v t) :
    Effect c t (insert target sources.toFinset)
      (Function.update c.named target ((c.named target).merge
        (Attributes.withoutIntentions (.ofList call.keywords.entries))))
      (Tie.fan "∇" target sources)
      ((if c.contains target then 0 else 1) + 1 + ((c.absent sources).erase target).card +
        sources.length) := by
  obtain ⟨_, c₁, hdiscard, hact⟩ := ok_of_bind (ok_of_room h)
  obtain ⟨_, c₂, hgather, hact⟩ := ok_of_bind hact
  cases hact
  obtain ⟨_, henrich⟩ := ok_of_discard hdiscard
  have heffect := effect_of_enrich (Change.ok_of_act henrich)
  rw [withoutIntentions_attributes] at heffect
  simpa using heffect.gather (Change.ok_of_act hgather)

theorem attributes_of_synthesis (call : Call) (components : List String) (e : Entity) :
    (e.merge (call.synthesis components).withoutIntentions).attributes.get? "type" =
        some (.str "synthesis") ∧
      (e.merge (call.synthesis components).withoutIntentions).attributes.get? "components" =
        some (.list (components.map .str)) := by
  simp [Entity.merge, synthesis, Attributes.get?_merge, Attributes.get?_withoutIntentions,
    Attributes.reserved, Attributes.intentionKey, Table.get?_insert_eq]

theorem effects_of_relating_operators
    (hnames : call.args.map Value.name? = names.map some) :
    (call.perform .lambda c = .ok v t →
      Effect c t names.toFinset c.named
        (Tie.links ((call.keywordName? "type").getD Relation.defaultKind)
          (call.attributes ["type"]) names)
        ((c.absent names).card + (names.length - 1))) ∧
    (call.perform .sigma c = .ok v t →
      ∃ name, name = (call.keywordName? "name").getD (synthesisName names) ∧
        Effect c t (insert name names.toFinset)
          (Function.update c.named name
            ((c.named name).merge (call.synthesis names).withoutIntentions))
          (Tie.fan "Σ" name names)
          (1 + ((c.absent names).erase name).card + names.length) ∧
        ∃ e, t.entity? name = some e ∧ e.attributes.get? "type" = some (.str "synthesis") ∧
          e.attributes.get? "components" = some (.list (names.map .str))) ∧
    (call.perform .nabla c = .ok v t →
      ∃ target sources, names = target :: sources ∧
        Effect c t (insert target sources.toFinset)
          (Function.update c.named target ((c.named target).merge
            (Attributes.withoutIntentions (.ofList call.keywords.entries))))
          (Tie.fan "∇" target sources)
          ((if c.contains target then 0 else 1) + 1 + ((c.absent sources).erase target).card +
            sources.length)) := by
  refine ⟨?_, ?_, ?_⟩
  · intro h
    obtain ⟨hlength, h⟩ := relate_of_perform .lambda hnames h
    exact effect_of_lambda hlength h
  · intro h
    obtain ⟨_, h⟩ := relate_of_perform .sigma hnames h
    have heffect := effect_of_sigma rfl h
    have hentity := heffect.entity? ((call.keywordName? "name").getD (synthesisName names))
    rw [if_pos (by simp), Function.update_self] at hentity
    exact ⟨_, rfl, heffect, _, hentity, attributes_of_synthesis call names _⟩
  · intro h
    obtain ⟨hlength, h⟩ := relate_of_perform .nabla hnames h
    cases names with
    | nil => cases hlength
    | cons target sources => exact ⟨target, sources, rfl, effect_of_nabla h⟩

def tangle : Call :=
  ⟨"Λ", 1, [.str "a", .str "b", .str "a", .str "a", .str "Α"],
    ⟨[("type", .str "b"), ("name", .str "a")]⟩, ["tangled"]⟩

theorem effects_of_tangle : ∃ c, create "tangle" .builtIn 0 = .ok c ∧
    tangle.args.map Value.name? = ["a", "b", "a", "a", "Α"].map some ∧
    (∃ v t news, tangle.perform .lambda c = .ok v t ∧ t.events = c.events ++ news ∧
      news.length = 6) ∧
    (∃ v t news, tangle.perform .sigma c = .ok v t ∧ t.events = c.events ++ news ∧
      news.length = 7) ∧
    ∃ v t news, tangle.perform .nabla c = .ok v t ∧ t.events = c.events ++ news ∧
      news.length = 7 := by
  obtain ⟨c, hc⟩ := create_of_room "tangle" 0
    (show 6 ≤ Axioms.builtIn.limits.entities by decide)
  have hlimit : c.axioms.limits.entities = 10000 := by rw [(reaches_of_create hc).frame.2.2]; rfl
  have hcount := nodeCount_of_create_le hc
  have hnames : tangle.args.map Value.name? = ["a", "b", "a", "a", "Α"].map some := rfl
  have hok {op : Operator} {least : Nat} (hop : Relating op least) (hleast : least ≤ 2) :
      ∃ v t, tangle.perform op c = .ok v t := by
    have hroom : c.HasRoom (tangle.touched ["a", "b", "a", "a", "Α"] op) := by
      refine hasRoom_of_length ?_
      cases hop <;> simp [touched] <;> omega
    exact (decided_perform hop (Nat.le_trans hleast (by decide)) hnames).succeeds
      ⟨hroom, fun _ => by omega⟩
  obtain ⟨v₁, t₁, h₁⟩ := hok .lambda (by decide)
  obtain ⟨v₂, t₂, h₂⟩ := hok .sigma (by decide)
  obtain ⟨v₃, t₃, h₃⟩ := hok .nabla (by decide)
  have hlambda := (effects_of_relating_operators hnames).1 h₁
  obtain ⟨_, rfl, hsigma, _⟩ := (effects_of_relating_operators hnames).2.1 h₂
  obtain ⟨_, _, hcons, hnabla⟩ := (effects_of_relating_operators hnames).2.2 h₃
  cases hcons
  have hpopulation := population_of_create hc
  have ha : c.contains "a" = false := by
    rw [← Bool.not_eq_true, ← mem_population, hpopulation]
    decide
  rw [absent, hpopulation] at hlambda hsigma hnabla
  rw [ha] at hnabla
  obtain ⟨news₁, he₁, hn₁⟩ := hlambda.events
  obtain ⟨news₂, he₂, hn₂⟩ := hsigma.events
  obtain ⟨news₃, he₃, hn₃⟩ := hnabla.events
  exact ⟨c, hc, hnames, ⟨v₁, t₁, news₁, h₁, he₁, hn₁⟩, ⟨v₂, t₂, news₂, h₂, he₂, hn₂⟩,
    v₃, t₃, news₃, h₃, he₃, hn₃⟩

end Call

end GestureGraph
