import GestureGraph.Program

namespace GestureGraph

def TokenKind.isParen : TokenKind → Bool
  | .openParen => true
  | .closeParen => true
  | _ => false

theorem TokenKind.isParen_iff {kind : TokenKind} :
    kind.isParen = true ↔ kind = .openParen ∨ kind = .closeParen := by
  cases kind <;> simp [isParen]

inductive Forest where
  | nil
  | atom (t : Token) (ht : t.kind.isParen = false) (rest : Forest)
  | group (opening : Token) (ho : opening.kind = .openParen) (inner : Forest)
      (closing : Token) (hc : closing.kind = .closeParen) (rest : Forest)

def groupValue : List Value → List Value
  | [] => []
  | items => [.list items]

def Headed (items : List Value) : Prop :=
  ∃ s rest, items = .str s :: rest ∧ s.toList.head? ≠ some ':'

namespace Forest

def flatten : Forest → List Token
  | .nil => []
  | .atom t _ rest => t :: rest.flatten
  | .group opening _ inner closing _ rest =>
      opening :: (inner.flatten ++ closing :: rest.flatten)

/-- How deep groups are nested, empty ones included. -/
def depth : Forest → Nat
  | .nil => 0
  | .atom _ _ rest => rest.depth
  | .group _ _ inner _ _ rest => max (inner.depth + 1) rest.depth

/-- The values of a forest, without the groups that hold nothing but such groups. -/
def values : Forest → List Value
  | .nil => []
  | .atom t _ rest => t.value :: rest.values
  | .group _ _ inner _ _ rest => groupValue inner.values ++ rest.values

def WellHeaded : Forest → Prop
  | .nil => True
  | .atom _ _ rest => rest.WellHeaded
  | .group _ _ inner _ _ rest =>
      (inner.values ≠ [] → Headed inner.values) ∧ inner.WellHeaded ∧ rest.WellHeaded

end Forest

namespace Program

theorem isKeyword_str (s : String) :
    (Value.str s).isKeyword = true ↔ s.toList.head? = some ':' := by
  simp only [Value.isKeyword, Value.keyword?, Value.keyOf?]
  split
  · rename_i key hs
    simp [hs]
  · rename_i hne
    cases hs : s.toList with
    | nil => simp
    | cons c cs =>
        have hc : c ≠ ':' := by
          rintro rfl
          exact hne cs hs
        simp [hc]

theorem closeGroup_eq_ok_iff {echo : String} {items : List Value} {v? : Option Value} :
    closeGroup echo items = .ok v? ↔
      (items ≠ [] → Headed items) ∧ v?.toList = groupValue items := by
  cases items with
  | nil => simp [closeGroup, groupValue, @eq_comm _ none]
  | cons head rest =>
      cases head with
      | str s =>
          have hheaded : Headed (.str s :: rest) ↔ s.toList.head? ≠ some ':' := by
            simp [Headed]
          by_cases hs : s.toList.head? = some ':'
          · have hk := (isKeyword_str s).mpr hs
            simp [closeGroup, hk, hheaded, hs]
          · have hk : (Value.str s).isKeyword = false :=
              Bool.eq_false_iff.mpr fun h => hs ((isKeyword_str s).mp h)
            simp [closeGroup, hk, hheaded, hs, groupValue, @eq_comm _ (some _)]
      | _ => simp [closeGroup, Value.isKeyword, Value.keyword?, Headed]

theorem reverse_groupValue (items : List Value) :
    (groupValue items).reverse = groupValue items := by
  cases items <;> rfl

variable {limit : Nat} {echo : String} {items : List Value} {outer : List (List Value)}
  {t : Token} {ts : List Token} {vs : List Value}

theorem parseIn_atom (ht : t.kind.isParen = false) :
    parseIn limit echo items outer (t :: ts) =
      parseIn limit echo (t.value :: items) outer ts := by
  cases hk : t.kind <;> simp_all [parseIn, TokenKind.isParen]

theorem parseIn_open (ht : t.kind = .openParen) :
    parseIn limit echo items outer (t :: ts) =
      if limit ≤ outer.length then .error (.tooDeep (outer.length + 1) limit echo)
      else parseIn limit echo [] (items :: outer) ts := by
  simp only [parseIn, ht]

theorem parseIn_close {parent : List Value} (ht : t.kind = .closeParen) {v? : Option Value}
    (hv : closeGroup echo items.reverse = .ok v?) :
    parseIn limit echo items (parent :: outer) (t :: ts) =
      parseIn limit echo (v?.toList ++ parent) outer ts := by
  cases v? <;> simp [parseIn, ht, hv]

theorem parseIn_close_eq_ok (ht : t.kind = .closeParen)
    (h : parseIn limit echo items outer (t :: ts) = .ok vs) :
    ∃ parent outer' v?, outer = parent :: outer' ∧ closeGroup echo items.reverse = .ok v? ∧
      parseIn limit echo (v?.toList ++ parent) outer' ts = .ok vs := by
  cases outer with
  | nil => simp [parseIn, ht] at h
  | cons parent outer =>
      cases hv : closeGroup echo items.reverse with
      | error e => simp [parseIn, ht, hv] at h
      | ok v? =>
          rw [parseIn_close ht hv] at h
          exact ⟨parent, outer, v?, rfl, rfl, h⟩

theorem parseIn_flatten (f : Forest) (hdepth : outer.length + f.depth ≤ limit)
    (hheads : f.WellHeaded) :
    parseIn limit echo items outer (f.flatten ++ ts) =
      parseIn limit echo (f.values.reverse ++ items) outer ts := by
  induction f generalizing items outer ts with
  | nil => rfl
  | atom t ht rest ih =>
      simp only [Forest.flatten, Forest.values, List.cons_append, List.reverse_cons,
        List.append_assoc]
      rw [parseIn_atom ht, ih hdepth hheads]
      rfl
  | group opening ho inner closing hc rest ihInner ihRest =>
      obtain ⟨hhead, hinner, hrest⟩ := hheads
      simp only [Forest.depth] at hdepth
      have hopen : ¬ limit ≤ outer.length := by omega
      have hclose : closeGroup echo (inner.values.reverse ++ []).reverse =
          .ok (groupValue inner.values).head? := by
        rw [closeGroup_eq_ok_iff]
        simp only [List.append_nil, List.reverse_reverse]
        refine ⟨hhead, ?_⟩
        cases inner.values <;> rfl
      have hitem : (groupValue inner.values).head?.toList = groupValue inner.values := by
        cases inner.values <;> rfl
      simp only [Forest.flatten, Forest.values, List.cons_append, List.append_assoc,
        List.reverse_append, reverse_groupValue]
      rw [parseIn_open ho, if_neg hopen, ihInner (by simp only [List.length_cons]; omega) hinner,
        parseIn_close hc hclose, hitem, ihRest (by omega) hrest]

/-- The tokens start with those of a forest. What follows is the end, or it is the end of a group
and then tokens that are accepted around it. -/
def StartsWithForest (limit : Nat) (echo : String) (items : List Value) (outer : List (List Value))
    (ts : List Token) (vs : List Value) : Prop :=
  ∃ (f : Forest) (rest : List Token), ts = f.flatten ++ rest ∧
    f.depth ≤ limit - outer.length ∧ f.WellHeaded ∧
    (rest = [] ∧ outer = [] ∧ vs = items.reverse ++ f.values ∨
      ∃ closing rest' parent outer' v?, rest = closing :: rest' ∧ closing.kind = .closeParen ∧
        outer = parent :: outer' ∧ closeGroup echo (items.reverse ++ f.values) = .ok v? ∧
        parseIn limit echo (v?.toList ++ parent) outer' rest' = .ok vs)

theorem startsWithForest_atom (ht : t.kind.isParen = false)
    (h : StartsWithForest limit echo (t.value :: items) outer ts vs) :
    StartsWithForest limit echo items outer (t :: ts) vs := by
  obtain ⟨f, rest, rfl, hdepth, hheads, hafter⟩ := h
  refine ⟨.atom t ht f, rest, rfl, hdepth, hheads, ?_⟩
  simpa [Forest.values] using hafter

theorem startsWithForest_group {inner : Forest} {closing : Token} (ht : t.kind = .openParen)
    (hc : closing.kind = .closeParen) (hlimit : outer.length < limit)
    (hdepth : inner.depth ≤ limit - (outer.length + 1)) (hheads : inner.WellHeaded)
    (hhead : inner.values ≠ [] → Headed inner.values)
    (h : StartsWithForest limit echo (groupValue inner.values ++ items) outer ts vs) :
    StartsWithForest limit echo items outer (t :: (inner.flatten ++ closing :: ts)) vs := by
  obtain ⟨f, rest, rfl, hdepth', hheads', hafter⟩ := h
  refine ⟨.group t ht inner closing hc f, rest, ?_, ?_, ⟨hhead, hheads, hheads'⟩, ?_⟩
  · simp [Forest.flatten]
  · simp only [Forest.depth]
    omega
  · simpa [Forest.values, reverse_groupValue] using hafter

theorem startsWithForest_close (ht : t.kind = .closeParen)
    (h : parseIn limit echo items outer (t :: ts) = .ok vs) :
    StartsWithForest limit echo items outer (t :: ts) vs := by
  obtain ⟨parent, outer', v?, rfl, hv, hrest⟩ := parseIn_close_eq_ok ht h
  refine ⟨.nil, t :: ts, rfl, Nat.zero_le _, trivial, Or.inr ?_⟩
  exact ⟨t, ts, parent, outer', v?, rfl, ht, rfl, by simpa [Forest.values] using hv, hrest⟩

theorem startsWithForest_end (h : parseIn limit echo items outer [] = .ok vs) :
    StartsWithForest limit echo items outer [] vs := by
  cases outer with
  | nil =>
      have hvs : items.reverse = vs := Except.ok.inj h
      refine ⟨.nil, [], rfl, Nat.zero_le _, trivial, Or.inl ⟨rfl, rfl, ?_⟩⟩
      simp [Forest.values, hvs]
  | cons parent outer => cases h

theorem startsWithForest_of_parseIn (h : parseIn limit echo items outer ts = .ok vs) :
    StartsWithForest limit echo items outer ts vs := by
  -- What follows a group is shorter, but it is no tail that an induction on the list would meet.
  induction hn : ts.length using Nat.strongRecOn generalizing items outer ts with
  | ind n ih =>
      cases ts with
      | nil => exact startsWithForest_end h
      | cons t ts =>
          rw [List.length_cons] at hn
          cases hp : t.kind.isParen with
          | false =>
              rw [parseIn_atom hp] at h
              exact startsWithForest_atom hp (ih ts.length (by omega) h rfl)
          | true =>
              rcases TokenKind.isParen_iff.mp hp with hk | hk
              · rw [parseIn_open hk] at h
                split at h
                · cases h
                rename_i hlimit
                obtain ⟨inner, rest, rfl, hdepth, hheads, ⟨_, hnil, _⟩ | ⟨closing, rest', parent,
                  outer', v?, rfl, hc, houter, hv, hparse⟩⟩ := ih ts.length (by omega) h rfl
                · cases hnil
                obtain ⟨rfl, rfl⟩ := List.cons.inj houter
                obtain ⟨hhead, hitem⟩ := closeGroup_eq_ok_iff.mp hv
                have hlt : rest'.length < n := by
                  simp only [List.length_append, List.length_cons] at hn
                  omega
                have hrest := ih rest'.length hlt hparse rfl
                rw [hitem] at hrest
                exact startsWithForest_group hk hc (by omega) hdepth hheads hhead hrest
              · exact startsWithForest_close hk h

theorem parse_eq_ok_iff_forest {bound : Nat} (hbound : 1 ≤ bound) (echo : String)
    (tokens : List Token) (vs : List Value) :
    parse bound echo tokens = .ok vs ↔
      ∃ f : Forest, f.flatten = tokens ∧ f.depth ≤ bound ∧ f.WellHeaded ∧ f.values = vs := by
  have hmax : Nat.max bound 1 = bound := Nat.max_eq_left hbound
  rw [parse, hmax]
  constructor
  · intro h
    obtain ⟨f, rest, htokens, hdepth, hheads, ⟨rfl, _, hvs⟩ | ⟨_, _, _, _, _, _, _, houter, _⟩⟩ :=
      startsWithForest_of_parseIn h
    · exact ⟨f, by simpa using htokens.symm, hdepth, hheads, hvs.symm⟩
    · cases houter
  · rintro ⟨f, rfl, hdepth, hheads, rfl⟩
    have hparse : parseIn bound echo [] [] (f.flatten ++ []) =
        parseIn bound echo (f.values.reverse ++ []) [] [] :=
      parseIn_flatten f (by simpa using hdepth) hheads
    simpa [parseIn] using hparse

def vanishing : List Token :=
  [⟨.openParen, .str "(", 0, 1⟩, ⟨.symbol, .str "Λ", 1, 3⟩, ⟨.openParen, .str "(", 4, 5⟩,
    ⟨.openParen, .str "(", 5, 6⟩, ⟨.closeParen, .str ")", 6, 7⟩, ⟨.closeParen, .str ")", 7, 8⟩,
    ⟨.symbol, .str "a", 9, 10⟩, ⟨.closeParen, .str ")", 10, 11⟩]

theorem vanishing_has_forest :
    (1 ≤ 3 ∧ ∃ f : Forest, f.flatten = vanishing ∧ f.depth ≤ 3 ∧ f.WellHeaded ∧
      f.values = [.list [.str "Λ", .str "a"]]) ∧
    (1 ≤ 2 ∧ ∀ vs, ¬ ∃ f : Forest, f.flatten = vanishing ∧ f.depth ≤ 2 ∧ f.WellHeaded ∧
      f.values = vs) := by
  refine ⟨⟨by decide, (parse_eq_ok_iff_forest (by decide) "" vanishing _).mp rfl⟩, by decide, ?_⟩
  intro vs h
  have hparse := (parse_eq_ok_iff_forest (by decide) "" vanishing vs).mpr h
  cases hparse

end Program

end GestureGraph
