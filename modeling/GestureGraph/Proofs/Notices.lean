import GestureGraph.Proofs.Effects
import GestureGraph.Proofs.Level
import GestureGraph.Proofs.Partition

namespace GestureGraph

theorem lookup_filter (entries : List (String × Value)) (skip : List String) (key : String) :
    (entries.filter fun e => !skip.contains e.1).lookup key =
      if key ∈ skip then none else entries.lookup key := by
  induction entries with
  | nil => simp
  | cons entry rest ih =>
      rw [List.filter_cons, Attributes.lookup_cons_eq]
      by_cases hskip : entry.1 ∈ skip
      · rw [if_neg (by simpa using hskip), ih]
        by_cases hkey : key = entry.1
        · rw [if_pos (hkey ▸ hskip), if_pos (hkey ▸ hskip)]
        · rw [if_neg hkey]
      · rw [if_pos (by simpa using hskip), Attributes.lookup_cons_eq, ih]
        by_cases hkey : key = entry.1
        · rw [if_pos hkey, if_pos hkey, if_neg (hkey ▸ hskip)]
        · rw [if_neg hkey, if_neg hkey]

theorem Attributes.statedBy_names (names : List String) :
    statedBy (.list (names.map .str)) = names := by
  rw [statedBy, List.filterMap_map]
  exact List.filterMap_some

namespace Call

variable {call : Call}

/-- What a call's attributes are taken apart into: the intentions, which a keyword may state instead
of the call, and the keywords that are not skipped. -/
structure Unpacks (call : Call) (skip : List String) : Prop where
  stated : ∀ v, call.keywords.get? Attributes.intentionKey = some v →
    Attributes.intentionKey ∉ skip → (call.attributes skip).intentions = Attributes.statedBy v
  given : call.keywords.get? Attributes.intentionKey = none →
    (call.attributes skip).intentions = call.intentions
  kept : ∀ key, (call.attributes skip).withoutIntentions.get? key =
    if key ∈ skip ∨ key = Attributes.intentionKey then none else call.keywords.get? key

def given (call : Call) (skip : List String) : Attributes :=
  .ofList (call.keywords.entries.filter fun e => !skip.contains e.1)

theorem get?_given (hkeys : call.keywords.keys.Nodup) (skip : List String) (key : String) :
    (call.given skip).get? key = if key ∈ skip then none else call.keywords.get? key := by
  rw [given, Attributes.get?_ofList, lookup_filter, Keywords.get?]
  exact hkeys.sublist (List.filter_sublist.map Prod.fst)

theorem attributes_eq (call : Call) (skip : List String) :
    call.attributes skip =
      if call.intentions.isEmpty || (call.given skip).contains Attributes.intentionKey then
        call.given skip
      else (call.given skip).insert Attributes.intentionKey
        (.list (call.intentions.map .str)) := rfl

theorem intentions_attributes (call : Call) (skip : List String) :
    (call.attributes skip).intentions =
      ((call.given skip).get? Attributes.intentionKey).elim call.intentions
        Attributes.statedBy := by
  rw [attributes_eq, Table.contains]
  cases hkey : (call.given skip).get? Attributes.intentionKey with
  | some v =>
      rw [Option.isSome_some, Bool.or_true, if_pos rfl, Attributes.intentions, hkey]
      rfl
  | none =>
      rw [Option.isSome_none, Bool.or_false]
      split
      · rename_i hempty
        rw [Attributes.intentions, hkey, List.isEmpty_iff.mp hempty]
        rfl
      · rw [Attributes.intentions, Table.get?_insert_self]
        exact Attributes.statedBy_names call.intentions

theorem unpacks (hkeys : call.keywords.keys.Nodup) (skip : List String) : call.Unpacks skip where
  stated v hv hskip := by
    rw [intentions_attributes, get?_given hkeys, if_neg hskip, hv]
    rfl
  given hnone := by
    rw [intentions_attributes, get?_given hkeys, hnone, ite_self]
    rfl
  kept key := by
    have hkept : (call.attributes skip).withoutIntentions = (call.given skip).withoutIntentions :=
      call.withoutIntentions_attributes skip
    rw [hkept, Attributes.get?_withoutIntentions, get?_given hkeys]
    by_cases hkey : key = Attributes.intentionKey
    · rw [if_pos hkey, if_pos (Or.inr hkey)]
    · simp [hkey]

end Call

structure Notice where
  kind : EventKind
  affected : List String
  intentions : List String
  deriving DecidableEq

def Event.notice (e : Event) : Notice := ⟨e.kind, e.affected, e.intentions⟩

namespace Notice

def created (intentions : List String) (name : String) : Notice :=
  ⟨.entityCreated, [name], intentions⟩

/-- An entity that comes into being on the way does so without intentions. -/
def newcomer (known : Finset String) (name : String) : List Notice :=
  if name ∈ known then [] else [created [] name]

def related (intentions : List String) (known : Finset String) :
    List (String × String) → List Notice
  | [] => []
  | (source, target) :: pairs =>
      newcomer known source ++ newcomer (known ∪ {source}) target ++
        ⟨.relationEstablished, [source, target], intentions⟩ ::
          related intentions (known ∪ {source, target}) pairs

end Notice

namespace Context

def Notified (c t : Context) (notices : List Notice) : Prop :=
  ∃ news, t.events = c.events ++ news ∧ news.map Event.notice = notices

variable {c t u : Context} {notices notices' : List Notice}

theorem Notified.refl (c : Context) : c.Notified c [] := ⟨[], by simp⟩

theorem Notified.trans (h : c.Notified t notices) (h' : t.Notified u notices') :
    c.Notified u (notices ++ notices') := by
  obtain ⟨news, hnews, hmap⟩ := h
  obtain ⟨news', hnews', hmap'⟩ := h'
  exact ⟨news ++ news', by rw [hnews', hnews, List.append_assoc],
    by rw [List.map_append, hmap, hmap']⟩

theorem notified_withEntity (c : Context) (name : String) (attrs : Attributes) :
    c.Notified (c.withEntity name attrs) [.created attrs.intentions name] := by
  obtain ⟨samples, coherence, h⟩ := c.withEntity_eq name attrs
  rw [h]
  exact ⟨_, rfl, rfl⟩

theorem notified_withRelation (c : Context) (source target kind : String) (attrs : Attributes) :
    c.Notified (c.withRelation source target kind attrs)
      [⟨.relationEstablished, [source, target], attrs.intentions⟩] := by
  obtain ⟨samples, coherence, h⟩ := c.withRelation_eq source target kind attrs
  rw [h]
  exact ⟨_, rfl, rfl⟩

theorem notified_withAttributes (c : Context) (name : String) (attrs : Attributes) :
    c.Notified (c.withAttributes name attrs) [⟨.entityEnriched, [name], attrs.intentions⟩] := by
  obtain ⟨samples, coherence, h⟩ := c.withAttributes_eq name attrs
  rw [h]
  exact ⟨_, rfl, rfl⟩

theorem notified_of_addMissing {name : String} (h : addMissing name c = .ok () t) :
    c.Notified t (Notice.newcomer c.population name) := by
  rw [addMissing_eq] at h
  simp only [Notice.newcomer, mem_population]
  cases hn : c.contains name with
  | true =>
      rw [hn] at h
      cases h
      exact .refl c
  | false =>
      rw [hn] at h
      obtain ⟨a, hadd⟩ := ok_of_discard h
      obtain rfl := ok_of_addEntity hadd
      exact notified_withEntity c name {}

theorem notified_of_addRelation {source target kind id : String} {attrs : Attributes}
    (h : addRelation source target kind attrs c = .ok id t) :
    c.Notified t (Notice.newcomer c.population source ++
      Notice.newcomer (c.population ∪ {source}) target ++
        [⟨.relationEstablished, [source, target], attrs.intentions⟩]) := by
  obtain ⟨_, c₀, hroom, hadd⟩ := ok_of_bind h
  obtain ⟨_, c₁, hsource, hadd⟩ := ok_of_bind hadd
  obtain ⟨_, c₂, htarget, hadd⟩ := ok_of_bind hadd
  cases hadd
  obtain rfl := ok_of_ensureRoom hroom
  have hnew := notified_of_addMissing htarget
  rw [(grown_of_addMissing hsource).population] at hnew
  exact ((notified_of_addMissing hsource).trans hnew).trans (notified_withRelation _ _ _ _ _)

theorem notified_of_enrich {name id : String} {attrs : Attributes}
    (h : enrich name attrs c = .ok id t) :
    c.Notified t (Notice.newcomer c.population name ++
      [⟨.entityEnriched, [name], attrs.intentions⟩]) := by
  obtain ⟨_, c₁, hname, henrich⟩ := ok_of_bind h
  cases henrich
  exact (notified_of_addMissing hname).trans (notified_withAttributes _ _ _)

theorem Notified.related {source target kind id : String} {attrs : Attributes}
    {pairs : List (String × String)} (hadd : addRelation source target kind attrs c = .ok id t)
    (hrest : t.Notified u (Notice.related attrs.intentions t.population pairs)) :
    c.Notified u (Notice.related attrs.intentions c.population ((source, target) :: pairs)) := by
  have hall := (notified_of_addRelation hadd).trans hrest
  rw [(grown_of_addRelation hadd).population, List.append_assoc] at hall
  exact hall

end Context

open Context

section

variable {c t : Context} {names : List String}

theorem notified_of_chain {kind : String} {attrs : Attributes} {ids : List Value}
    (h : Call.chain kind attrs names c = .ok ids t) :
    c.Notified t (Notice.related attrs.intentions c.population (names.zip names.tail)) := by
  fun_induction Call.chain kind attrs names generalizing c ids with
  | case1 source target rest ih =>
      obtain ⟨_, c₁, hadd, hrest⟩ := ok_of_bind h
      obtain ⟨_, c₂, hrest, hids⟩ := ok_of_bind hrest
      cases hids
      exact .related hadd (ih hrest)
  | case2 names hnames =>
      cases h
      have hpairs : names.zip names.tail = [] := by
        rcases names with _ | ⟨source, _ | ⟨target, rest⟩⟩
        · rfl
        · rfl
        · exact absurd rfl (hnames source target rest)
      rw [hpairs]
      exact .refl _

theorem notified_of_gather {kind target : String} (h : Call.gather kind target names c = .ok () t) :
    c.Notified t (Notice.related [] c.population (names.map (·, target))) := by
  induction names generalizing c with
  | nil =>
      cases h
      exact .refl _
  | cons name rest ih =>
      obtain ⟨_, c₁, hadd, hrest⟩ := ok_of_bind h
      obtain ⟨id, hadd⟩ := ok_of_discard hadd
      exact .related hadd (ih hrest)

end

theorem Tie.intentions_overwrite {context : String} {edges : Table Ends Relation}
    {ties : List Tie} {intentions : List String} {ends : Ends}
    (hties : ∀ tie ∈ ties, tie.attrs.intentions = intentions)
    (hends : ends ∈ ties.map Tie.ends ∨ ∃ r, edges.get? ends = some r ∧ r.intentions = intentions) :
    ∃ r, (overwrite context edges ties).get? ends = some r ∧ r.intentions = intentions := by
  induction ties generalizing edges with
  | nil => exact hends.resolve_left List.not_mem_nil
  | cons tie ties ih =>
      obtain ⟨hfirst, hrest⟩ := List.forall_mem_cons.mp hties
      refine ih hrest ?_
      by_cases heq : ends = tie.ends
      · exact Or.inr ⟨tie.relation context, by rw [Table.get?_insert_eq, if_pos heq], hfirst⟩
      · refine hends.imp (fun hmem => (List.mem_cons.mp hmem).resolve_left heq) ?_
        rintro ⟨r, hr, hintentions⟩
        exact ⟨r, by rw [Table.get?_insert_eq, if_neg heq, hr], hintentions⟩

/-- Operands that are named one after the other. Each is reduced, and told to be created with the
intentions of the call, before the next one's turn. -/
inductive Naming (call : Call) : Machine → List Value → List String → Machine → Prop
  | done (m : Machine) : Naming call m [] [] m
  | named {m m₁ m₂ m₃ : Machine} {v w : Value} {vs : List Value} {name : String}
      {names : List String} (hreduced : Machine.reduce call.intentions v m = .ok w m₁)
      (hname : w.name? = some name) (hrest : m₂ = { m₁ with context := m₂.context })
      (hnotice : m₁.context.Notified m₂.context [.created call.intentions name])
      (hmore : Naming call m₂ vs names m₃) : Naming call m (v :: vs) (name :: names) m₃

namespace Call

variable {call : Call} {c t : Context} {v : Value} {names : List String}

theorem given_intentions (hkeys : call.keywords.keys.Nodup)
    (hnone : call.keywords.get? Attributes.intentionKey = none) (skip : List String) :
    (call.attributes skip).intentions = call.intentions := (unpacks hkeys skip).given hnone

theorem ok_of_requireOperands {least : Nat} (h : call.requireOperands least c = .ok () t) :
    t = c := by
  rcases call.requireOperands_cases least c with ⟨_, hok⟩ | ⟨e, he⟩
  · rw [hok] at h
    cases h
    rfl
  · rw [he] at h
    cases h

theorem notified_of_collapse {w : Value} (h : call.collapse v c = .ok w t) :
    ∃ name, v.name? = some name ∧
      c.Notified t [.created (call.attributes []).intentions name] := by
  obtain ⟨name, c₁, hname, hact⟩ := ok_of_bind h
  obtain ⟨a, c₂, hadd, hact⟩ := ok_of_bind hact
  cases hact
  obtain ⟨hv, rfl⟩ := ok_of_nameOf hname
  obtain rfl := ok_of_addEntity (Change.ok_of_act hadd)
  exact ⟨name, hv, notified_withEntity _ _ _⟩

theorem notified_of_collapseAll {vs results : List Value}
    (h : call.collapseAll vs c = .ok results t) :
    ∃ names : List String, vs.map Value.name? = names.map some ∧
      c.Notified t (names.map (.created (call.attributes []).intentions)) := by
  induction vs generalizing c results with
  | nil =>
      cases h
      exact ⟨[], rfl, .refl _⟩
  | cons v vs ih =>
      obtain ⟨_, c₁, hfirst, hact⟩ := ok_of_bind h
      obtain ⟨_, c₂, hrest, hact⟩ := ok_of_bind hact
      cases hact
      obtain ⟨name, hname, hnotice⟩ := notified_of_collapse hfirst
      obtain ⟨names, hnames, hnotices⟩ := ih hrest
      exact ⟨name :: names, by simp [hname, hnames], hnotice.trans hnotices⟩

theorem names_of_perform {op : Operator} {least : Nat} (hop : Relating op least)
    (h : call.perform op c = .ok v t) :
    ∃ names : List String, call.args.map Value.name? = names.map some ∧ least ≤ names.length ∧
      call.relate names op c = .ok v t := by
  rcases call.perform_cases hop c with ⟨names, _, hnames⟩ | ⟨e, he⟩
  · obtain ⟨hlength, hrelate⟩ := relate_of_perform hop hnames h
    exact ⟨names, hnames, hlength, hrelate⟩
  · rw [he] at h
    cases h

theorem notified_of_lambda (h : call.relate names .lambda c = .ok v t) :
    c.Notified t (Notice.related (call.attributes ["type"]).intentions c.population
      (names.zip names.tail)) := by
  obtain ⟨ids, c₁, hchain, hact⟩ := ok_of_bind (ok_of_room h)
  cases hact
  exact notified_of_chain (Change.ok_of_act hchain)

theorem relations_of_lambda (hlength : 2 ≤ names.length)
    (h : call.relate names .lambda c = .ok v t) :
    ∀ pair ∈ names.zip names.tail, ∃ r, t.relation? pair.1 pair.2 = some r ∧
      r.intentions = (call.attributes ["type"]).intentions := by
  intro pair hpair
  rw [relation?, (effect_of_lambda hlength h).edges]
  refine Tie.intentions_overwrite ?_ (Or.inl ?_)
  · intro tie htie
    obtain ⟨_, _, rfl⟩ := List.mem_map.mp htie
    rfl
  · rw [Tie.links, List.map_map]
    exact List.mem_map_of_mem hpair

theorem notified_of_nabla {target : String} {sources : List String}
    (h : call.relate (target :: sources) .nabla c = .ok v t) :
    c.Notified t (Notice.newcomer c.population target ++
      ⟨.entityEnriched, [target], (call.attributes []).intentions⟩ ::
        Notice.related [] (c.population ∪ {target}) (sources.map (·, target))) := by
  obtain ⟨_, c₁, hdiscard, hact⟩ := ok_of_bind (ok_of_room h)
  obtain ⟨_, c₂, hgather, hact⟩ := ok_of_bind hact
  cases hact
  obtain ⟨_, henrich⟩ := ok_of_discard hdiscard
  have hrich := Change.ok_of_act henrich
  have hall := (notified_of_enrich hrich).trans (notified_of_gather (Change.ok_of_act hgather))
  rwa [(effect_of_enrich hrich).population, List.append_assoc] at hall

end Call

namespace Machine

def nameOperands (call : Call) (operands : List Value) : Step .plain Value := do
  onContext (call.requireOperands 1)
  let names ← visit call.intentions (fun v => onContext (call.collapse v)) operands
  return .oneOrMany names

def nameForm (g : Gesture) (intentions : List String) (operands : List Value) :
    Step .plain Value := do
  count g.symbol
  let m ← get
  nameOperands ⟨g.symbol, m.depth, (Operands.split operands).positional,
    (Operands.split operands).keywords, intentions⟩ operands

theorem guarded_congr {body body' : Step .plain Value} {m : Machine}
    (h : body m.enter = body' m.enter) (intentions : List String) :
    guarded intentions body m = guarded intentions body' m := by
  have hchecked : (checkCeilings *> body) m.enter = (checkCeilings *> body') m.enter := by
    rw [seqRight_eq_bind, seqRight_eq_bind]
    rcases checkCeilings_cases m.enter with ⟨hc, _⟩ | ⟨e, hc, _⟩ | ⟨e, hc, _⟩
    · rw [bind_of_ok hc, bind_of_ok hc, h]
    · rw [bind_of_error hc, bind_of_error hc]
    · rw [bind_of_error hc, bind_of_error hc]
  rw [guarded, guarded, hchecked]

theorem evaluate_naming {symbol : String} {m : Machine} {g : Gesture}
    (hg : m.gestures.get? symbol = some g) (hbuiltIn : g.behavior = .builtIn)
    (hkind : g.kind = .alpha) (intentions : List String) (operands : List Value) :
    evaluate intentions (.list (.str symbol :: operands)) m =
      guarded intentions (nameForm g intentions operands) m := by
  rw [evaluate]
  refine guarded_congr ?_ intentions
  obtain ⟨s, kind, behavior, calls⟩ := g
  cases hbuiltIn
  cases hkind
  have hg' : m.enter.gestures.get? symbol = some ⟨s, .alpha, .builtIn, calls⟩ := hg
  have hget : (get : Step .plain Machine) m.enter = .ok m.enter m.enter := rfl
  rw [bind_of_ok hget]
  simp only [hg']
  rfl

theorem ok_of_onContext {α : Type} {a : Act α} {m m' : Machine} {x : α}
    (h : onContext a m = .ok x m') :
    a m.context = .ok x m'.context ∧ m' = { m with context := m'.context } := by
  simp only [onContext] at h
  cases ha : a m.context with
  | ok y c =>
      rw [ha] at h
      cases h
      exact ⟨rfl, rfl⟩
  | error e c =>
      rw [ha] at h
      cases h

theorem naming_of_mapM {call : Call} {vs results : List Value} {m m' : Machine}
    (hintentions : (call.attributes []).intentions = call.intentions)
    (h : (vs.mapM fun v => reduce call.intentions v >>= fun w => onContext (call.collapse w)) m =
      .ok results m') : ∃ names, Naming call m vs names m' := by
  induction vs generalizing m results with
  | nil =>
      rw [List.mapM_nil] at h
      cases h
      exact ⟨[], .done _⟩
  | cons v vs ih =>
      rw [List.mapM_cons] at h
      obtain ⟨_, m₂, hfirst, hact⟩ := ok_of_bind h
      obtain ⟨_, m₃, hrest, hact⟩ := ok_of_bind hact
      cases hact
      obtain ⟨w, m₁, hreduced, hcollapse⟩ := ok_of_bind hfirst
      obtain ⟨hcollapse, hframe⟩ := ok_of_onContext hcollapse
      obtain ⟨name, hname, hnotice⟩ := Call.notified_of_collapse hcollapse
      rw [hintentions] at hnotice
      obtain ⟨names, hnaming⟩ := ih hrest
      exact ⟨name :: names, .named hreduced hname hframe hnotice hnaming⟩

theorem naming_of_nameOperands {call : Call} {operands : List Value} {m m' : Machine} {v : Value}
    (hintentions : (call.attributes []).intentions = call.intentions)
    (h : nameOperands call operands m = .ok v m') :
    ∃ names, Naming call m (Operands.split operands).positional names m' := by
  obtain ⟨_, m₁, hcheck, hact⟩ := ok_of_bind h
  obtain ⟨results, m₂, hvisit, hact⟩ := ok_of_bind hact
  cases hact
  obtain ⟨hcheck, hframe⟩ := ok_of_onContext hcheck
  rw [Call.ok_of_requireOperands hcheck] at hframe
  subst hframe
  rw [visit_eq_mapM] at hvisit
  exact naming_of_mapM hintentions hvisit

end Machine

namespace Call

structure TellsIntentions (call : Call) : Prop where
  alpha : ∀ {c t v}, call.perform .alpha c = .ok v t → ∃ names : List String,
    call.args.map Value.name? = names.map some ∧
      c.Notified t (names.map (.created call.intentions))
  naming : ∀ {operands m m' v}, Machine.nameOperands call operands m = .ok v m' →
    ∃ names, Naming call m (Operands.split operands).positional names m'
  lambda : ∀ {c t v}, call.perform .lambda c = .ok v t → ∃ names : List String,
    call.args.map Value.name? = names.map some ∧
      c.Notified t (Notice.related call.intentions c.population (names.zip names.tail)) ∧
      ∀ pair ∈ names.zip names.tail, ∃ r, t.relation? pair.1 pair.2 = some r ∧
        r.intentions = call.intentions
  nabla : ∀ {c t v}, call.perform .nabla c = .ok v t → ∃ (target : String) (sources : List String),
    call.args.map Value.name? = (target :: sources).map some ∧
      c.Notified t (Notice.newcomer c.population target ++
        ⟨.entityEnriched, [target], call.intentions⟩ ::
          Notice.related [] (c.population ∪ {target}) (sources.map (·, target)))

theorem tellsIntentions {call : Call} (hkeys : call.keywords.keys.Nodup)
    (hnone : call.keywords.get? Attributes.intentionKey = none) : call.TellsIntentions where
  alpha h := by
    obtain ⟨_, c₁, hcheck, hact⟩ := ok_of_bind h
    obtain ⟨results, c₂, hall, hact⟩ := ok_of_bind hact
    cases hact
    obtain rfl := ok_of_requireOperands hcheck
    obtain ⟨names, hnames, hnotices⟩ := notified_of_collapseAll hall
    rw [given_intentions hkeys hnone] at hnotices
    exact ⟨names, hnames, hnotices⟩
  naming h := Machine.naming_of_nameOperands (given_intentions hkeys hnone []) h
  lambda h := by
    obtain ⟨names, hnames, hlength, hrelate⟩ := names_of_perform .lambda h
    have hnotices := notified_of_lambda hrelate
    have hrelations := relations_of_lambda hlength hrelate
    rw [given_intentions hkeys hnone] at hnotices hrelations
    exact ⟨names, hnames, hnotices, hrelations⟩
  nabla h := by
    obtain ⟨names, hnames, hlength, hrelate⟩ := names_of_perform .nabla h
    cases names with
    | nil => cases hlength
    | cons target sources =>
        have hnotices := notified_of_nabla hrelate
        rw [given_intentions hkeys hnone] at hnotices
        exact ⟨target, sources, hnames, hnotices⟩

def succeeded {ε σ α : Type} : EStateM.Result ε σ α → Bool
  | .ok _ _ => true
  | .error _ _ => false

theorem ok_of_succeeded {ε σ α : Type} {r : EStateM.Result ε σ α} (h : succeeded r = true) :
    ∃ a s, r = .ok a s := by
  cases r with
  | ok a s => exact ⟨a, s, rfl⟩
  | error e s => cases h

def muse : Context := .bare "muse" .builtIn 0

def inspired : Call :=
  ⟨"Λ", 1, [.str "a", .str "b", .str "a"], ⟨[("type", .str "t"), ("color", .str "red")]⟩,
    ["first", "second"]⟩

end Call

end GestureGraph
