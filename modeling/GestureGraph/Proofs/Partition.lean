import GestureGraph.Proofs.Operands
import Mathlib.Data.List.Induction
import Mathlib.Data.List.Nodup

namespace GestureGraph

namespace Value

theorem keyword?_str (key : String) : (Value.str (":" ++ key)).keyword? = some key := by
  simp [keyword?, keyOf?]

theorem eq_of_keyword? {v : Value} {key : String} (h : v.keyword? = some key) :
    v = .str (":" ++ key) := by
  cases v with
  | str s =>
      simp only [keyword?, keyOf?] at h
      split at h
      · rename_i cs hs
        cases h
        have htext : s.toList = (":" ++ String.ofList cs).toList := by simp [hs]
        rw [String.toList_inj.mp htext]
      · cases h
  | _ => cases h

end Value

namespace Keywords

theorem nodup_insert {kw : Keywords} (h : kw.keys.Nodup) (key : String) (value : Value) :
    (kw.insert key value).keys.Nodup := by
  rw [keys_insert]
  split
  · exact h
  · rename_i hkey
    exact List.Nodup.append h (List.nodup_singleton key) (by simpa using hkey)

def insertAll (kw : Keywords) (pairs : List (String × Value)) : Keywords :=
  pairs.foldl (fun kw pair => kw.insert pair.1 pair.2) kw

end Keywords

namespace Operands

inductive Part where
  | plain (v : Value)
  | pair (key : String) (value : Value)
  | last (key : String)

namespace Part

def operands : Part → List Value
  | .plain v => [v]
  | .pair key value => [.str (":" ++ key), value]
  | .last key => [.str (":" ++ key)]

def positional? : Part → Option Value
  | .plain v => some v
  | _ => none

def pair? : Part → Option (String × Value)
  | .plain _ => none
  | .pair key value => some (key, value)
  | .last key => some (key, .bool true)

end Part

/-- The parts make up the operand list, keywords do not stand by themselves, and only in last place
one stands without a value. -/
structure Divides (parts : List Part) (operands : List Value) : Prop where
  covers : parts.flatMap Part.operands = operands
  plain : ∀ v, .plain v ∈ parts → v.keyword? = none
  last : ∀ key, .last key ∉ parts.dropLast

def parts : List Value → List Part
  | [] => []
  | [v] =>
      match v.keyword? with
      | some key => [.last key]
      | none => [.plain v]
  | v :: w :: rest =>
      match v.keyword? with
      | some key => .pair key w :: parts rest
      | none => .plain v :: parts (w :: rest)

theorem parts_plain {v : Value} (h : v.keyword? = none) (rest : List Value) :
    parts (v :: rest) = .plain v :: parts rest := by
  cases rest with
  | nil => simp only [parts, h]
  | cons w rest => simp only [parts, h]

theorem parts_pair (key : String) (value : Value) (rest : List Value) :
    parts (.str (":" ++ key) :: value :: rest) = .pair key value :: parts rest := by
  simp only [parts, Value.keyword?_str]

theorem parts_last (key : String) : parts [.str (":" ++ key)] = [.last key] := by
  simp only [parts, Value.keyword?_str]

section divides

variable {ps qs : List Part} {xs ys : List Value}

theorem Divides.append (hp : Divides ps xs) (hopen : ∀ key, .last key ∉ ps) (hq : Divides qs ys) :
    Divides (ps ++ qs) (xs ++ ys) where
  covers := by rw [List.flatMap_append, hp.covers, hq.covers]
  plain v hv := by
    rcases List.mem_append.mp hv with hv | hv
    · exact hp.plain v hv
    · exact hq.plain v hv
  last key hkey := by
    rw [List.dropLast_append] at hkey
    split at hkey
    · exact hp.last key hkey
    · rcases List.mem_append.mp hkey with hkey | hkey
      · exact hopen key hkey
      · exact hq.last key hkey

theorem divides_parts (operands : List Value) : Divides (parts operands) operands := by
  have hsingle {v : Value} (hv : v.keyword? = none) : Divides [.plain v] [v] :=
    ⟨rfl, by simpa using hv, fun _ => List.not_mem_nil⟩
  fun_induction parts operands with
  | case1 => exact ⟨rfl, nofun, nofun⟩
  | case2 v key hkey =>
      obtain rfl := Value.eq_of_keyword? hkey
      exact ⟨rfl, by simp, fun _ => List.not_mem_nil⟩
  | case3 v hkey => exact hsingle hkey
  | case4 v w rest key hkey ih =>
      obtain rfl := Value.eq_of_keyword? hkey
      have hpair : Divides [.pair key w] [.str (":" ++ key), w] :=
        ⟨rfl, by simp, fun _ => List.not_mem_nil⟩
      exact hpair.append (by simp) ih
  | case5 v w rest hkey ih => exact (hsingle hkey).append (by simp) ih

theorem Divides.tail {p : Part} (h : Divides (p :: ps) xs) :
    Divides ps (ps.flatMap Part.operands) where
  covers := rfl
  plain v hv := h.plain v (List.mem_cons_of_mem p hv)
  last key hkey := by
    have hne : ps ≠ [] := by
      rintro rfl
      cases hkey
    refine h.last key ?_
    rw [List.dropLast_cons_of_ne_nil hne]
    exact List.mem_cons_of_mem p hkey

theorem Divides.eq_parts (h : Divides ps xs) : ps = parts xs := by
  obtain rfl := h.covers
  -- By induction on the parts: each says how many operands the pass takes for it.
  induction ps with
  | nil => rfl
  | cons p ps ih =>
      have hrest := ih h.tail
      rw [List.flatMap_cons]
      cases p with
      | plain v =>
          have hv : v.keyword? = none := h.plain v List.mem_cons_self
          rw [Part.operands, List.singleton_append, parts_plain hv, ← hrest]
      | pair key value =>
          rw [Part.operands, List.cons_append, List.singleton_append, parts_pair, ← hrest]
      | last key =>
          cases ps with
          | nil => exact (parts_last key).symm
          | cons q qs => exact absurd List.mem_cons_self (h.last key)

theorem divides_iff : Divides ps xs ↔ ps = parts xs := by
  constructor
  · exact Divides.eq_parts
  · rintro rfl
    exact divides_parts xs

theorem not_mem_of_getLast? (h : Divides ps xs) (hend : ∀ key, ps.getLast? ≠ some (.last key))
    (key : String) : .last key ∉ ps := by
  intro hkey
  rcases List.eq_nil_or_concat ps with rfl | ⟨front, p, rfl⟩
  · cases hkey
  · rw [List.concat_eq_append] at h hend hkey
    have hlast := h.last key
    have hp := hend key
    rw [List.dropLast_concat] at hlast
    rw [List.getLast?_concat] at hp
    rcases List.mem_append.mp hkey with hkey | hkey
    · exact hlast hkey
    · exact hp (congrArg some (List.mem_singleton.mp hkey).symm)

theorem parts_append (hend : ∀ key, (parts xs).getLast? ≠ some (.last key)) (ys : List Value) :
    parts (xs ++ ys) = parts xs ++ parts ys := by
  have hopen := not_mem_of_getLast? (divides_parts xs) hend
  exact ((divides_parts xs).append hopen (divides_parts ys)).eq_parts.symm

end divides

theorem split_eq (operands : List Value) :
    split operands =
      ⟨(parts operands).filterMap Part.positional?, (parts operands).filterMap Part.pair?⟩ := by
  fun_induction parts operands with
  | case1 => rfl
  | case2 v key hkey => simp [split, hkey, Part.positional?, Part.pair?]
  | case3 v hkey => simp [split, hkey, Part.positional?, Part.pair?]
  | case4 v w rest key hkey ih =>
      simp [split, hkey, ih, List.filterMap_cons, Part.positional?, Part.pair?]
  | case5 v w rest hkey ih =>
      simp [split, hkey, ih, List.filterMap_cons, Part.positional?, Part.pair?]

end Operands

namespace Keywords

theorem insertAll_concat (kw : Keywords) (pairs : List (String × Value)) (pair : String × Value) :
    kw.insertAll (pairs ++ [pair]) = (kw.insertAll pairs).insert pair.1 pair.2 := by
  simp [insertAll]

theorem keys_insertAll (pairs : List (String × Value)) :
    (insertAll {} pairs).keys = (pairs.map Prod.fst).eraseDups := by
  induction pairs using List.reverseRecOn with
  | nil => rfl
  | append_singleton pairs pair ih =>
      rw [insertAll_concat, keys_insert, ih, List.map_append, List.eraseDups_append]
      by_cases hkey : pair.1 ∈ pairs.map Prod.fst
      · have hnone : ([pair].map Prod.fst).removeAll (pairs.map Prod.fst) = [] := by
          simpa [List.removeAll] using hkey
        rw [if_pos (List.mem_eraseDups.mpr hkey), hnone, List.eraseDups_nil, List.append_nil]
      · have hone : ([pair].map Prod.fst).removeAll (pairs.map Prod.fst) = [pair.1] := by
          simpa [List.removeAll] using hkey
        rw [if_neg (mt List.mem_eraseDups.mp hkey), hone]
        rfl

theorem get?_insertAll (pairs : List (String × Value)) (key : String) :
    (insertAll {} pairs).get? key =
      ((pairs.filter fun pair => pair.1 = key).getLast?).map Prod.snd := by
  induction pairs using List.reverseRecOn with
  | nil => rfl
  | append_singleton pairs pair ih =>
      rw [insertAll_concat, get?_insert, ih, List.filter_append]
      by_cases hkey : pair.1 = key
      · simp [hkey]
      · simp [hkey, Ne.symm hkey]

end Keywords

namespace Operands

theorem keywords_eq (ops : Operands) : ops.keywords = Keywords.insertAll {} ops.pairs := rfl

theorem nodup_keywords (ops : Operands) : ops.keywords.keys.Nodup := by
  rw [keywords_eq]
  induction ops.pairs using List.reverseRecOn with
  | nil => exact List.nodup_nil
  | append_singleton pairs pair ih =>
      rw [Keywords.insertAll_concat]
      exact Keywords.nodup_insert ih pair.1 pair.2

theorem sublist_positional (operands : List Value) :
    (split operands).positional.Sublist operands := by
  have hpart (p : Part) : p.positional?.toList.Sublist p.operands := by
    cases p <;> simp [Part.positional?, Part.operands]
  rw [split_eq]
  conv_rhs => rw [← (divides_parts operands).covers]
  induction parts operands with
  | nil => exact .slnil
  | cons p ps ih =>
      rw [List.filterMap_cons, List.flatMap_cons]
      cases hp : p.positional? with
      | none => exact ih.trans (List.sublist_append_right _ _)
      | some v => exact (hp ▸ hpart p).append ih

theorem keyword?_of_mem_positional {operands : List Value} {v : Value}
    (h : v ∈ (split operands).positional) : v.keyword? = none := by
  rw [split_eq] at h
  obtain ⟨p, hp, hv⟩ := List.mem_filterMap.mp h
  cases p with
  | plain w =>
      cases hv
      exact (divides_parts operands).plain v hp
  | pair key value => cases hv
  | last key => cases hv

theorem operands_are_partitioned (operands : List Value) :
    (∀ ps, Divides ps operands ↔ ps = parts operands) ∧
    (split operands).positional = (parts operands).filterMap Part.positional? ∧
    (split operands).pairs = (parts operands).filterMap Part.pair? ∧
    (split operands).positional.Sublist operands ∧
    (∀ s, .str s ∈ (split operands).positional → s.toList.head? ≠ some ':') ∧
    (split operands).keywords.keys = ((split operands).pairs.map Prod.fst).eraseDups ∧
    (split operands).keywords.keys.Nodup ∧
    (∀ key, (split operands).keywords.get? key =
      (((split operands).pairs.filter fun pair => pair.1 = key).getLast?).map Prod.snd) ∧
    ((∀ key, (parts operands).getLast? ≠ some (.last key)) → ∀ more,
      (split (operands ++ more)).positional =
        (split operands).positional ++ (split more).positional ∧
      (split (operands ++ more)).keywords =
        (split operands).keywords.insertAll (split more).pairs) := by
  have hhead : ∀ s, .str s ∈ (split operands).positional → s.toList.head? ≠ some ':' := by
    intro s hs hhead
    have hnone : Value.keyOf? s = none := keyword?_of_mem_positional hs
    obtain ⟨cs, hcs⟩ := List.head?_eq_some_iff.mp hhead
    rw [Value.keyOf?, hcs] at hnone
    cases hnone
  refine ⟨fun ps => divides_iff, by rw [split_eq], by rw [split_eq], sublist_positional operands,
    hhead, Keywords.keys_insertAll _, nodup_keywords _, Keywords.get?_insertAll _, ?_⟩
  intro hend more
  have hsplit : split (operands ++ more) =
      ⟨(split operands).positional ++ (split more).positional,
        (split operands).pairs ++ (split more).pairs⟩ := by
    simp only [split_eq, parts_append hend, List.filterMap_append]
  rw [hsplit]
  exact ⟨rfl, List.foldl_append⟩

def crowded : List Value := [.str ":a", .str ":b", .str "x", .str ":a", .int 1]

theorem crowded_operands_are_partitioned :
    (∀ key, (parts crowded).getLast? ≠ some (.last key)) ∧
    (split (crowded ++ [.str "y", .str ":c"])).positional = [.str "x", .str "y"] ∧
    (split (crowded ++ [.str "y", .str ":c"])).keywords =
      ⟨[("a", .int 1), ("c", .bool true)]⟩ := by
  have hend : ∀ key, (parts crowded).getLast? ≠ some (.last key) := by
    intro key
    simp [crowded, parts, Value.keyword?, Value.keyOf?]
  obtain ⟨_, _, _, _, _, _, _, _, happend⟩ := operands_are_partitioned crowded
  obtain ⟨hpositional, hkeywords⟩ := happend hend [.str "y", .str ":c"]
  exact ⟨hend, hpositional, hkeywords⟩

end Operands

end GestureGraph
