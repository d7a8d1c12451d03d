import GestureGraph.Attributes
import GestureGraph.Proofs.Table

namespace GestureGraph.Attributes

open Std

theorem get?_withoutIntentions (attrs : Attributes) (key : String) :
    attrs.withoutIntentions.get? key = if key = intentionKey then none else attrs.get? key :=
  Table.get?_erase attrs intentionKey key

theorem get?_mergeOne (attrs : Attributes) (k key : String) (v : Value) :
    Table.get? (if reserved.contains k then attrs else attrs.insert k v) key =
      if key = k ∧ reserved.contains k = false then some v else attrs.get? key := by
  cases reserved.contains k with
  | true => simp
  | false => simp [Table.get?_insert_eq]

theorem get?_mergeEntries {entries : List (String × Value)}
    (h : entries.Pairwise fun a b => compare a.1 b.1 = .lt) (attrs : Attributes) (key : String) :
    Table.get? (entries.foldl
        (fun attrs (key, v) => if reserved.contains key then attrs else attrs.insert key v) attrs)
        key =
      if reserved.contains key then attrs.get? key
      else (Table.lookupEntry key entries).or (attrs.get? key) := by
  induction entries generalizing attrs with
  | nil => simp [Table.lookupEntry]
  | cons entry rest ih =>
      obtain ⟨k, v⟩ := entry
      obtain ⟨hfirst, hrest⟩ := List.pairwise_cons.mp h
      rw [List.foldl_cons, ih hrest, get?_mergeOne]
      by_cases hkey : key = k
      · -- a key stands once among the entries
        subst hkey
        have hnone : Table.lookupEntry key rest = none := Table.lookupEntry_eq_none_of_lt hfirst
        cases hr : reserved.contains key with
        | true => simp
        | false => simp [Table.lookupEntry, hnone]
      · have hne : compare key k ≠ .eq := fun he => hkey (LawfulEqCmp.eq_of_compare he)
        simp [Table.lookupEntry, hne, hkey]

theorem get?_merge (attrs more : Attributes) (key : String) :
    (attrs.merge more).get? key =
      if reserved.contains key then attrs.get? key else (more.get? key).or (attrs.get? key) :=
  get?_mergeEntries more.ascending attrs key

theorem lookup_cons_eq (entry : String × Value) (rest : List (String × Value)) (key : String) :
    (entry :: rest).lookup key = if key = entry.1 then some entry.2 else rest.lookup key := by
  rw [List.lookup_cons]
  by_cases h : key = entry.1
  · simp [h]
  · simp [h, beq_false_of_ne h]

theorem get?_insertEntries {entries : List (String × Value)} (h : (entries.map Prod.fst).Nodup)
    (attrs : Attributes) (key : String) :
    Table.get? (entries.foldl (fun attrs entry => attrs.insert entry.1 entry.2) attrs) key =
      (entries.lookup key).or (attrs.get? key) := by
  induction entries generalizing attrs with
  | nil => rfl
  | cons entry rest ih =>
      obtain ⟨hfirst, hrest⟩ := List.nodup_cons.mp h
      rw [List.foldl_cons, ih hrest, Table.get?_insert_eq, lookup_cons_eq]
      by_cases hkey : key = entry.1
      · -- a key stands once among the entries
        have hnone : rest.lookup key = none := by
          rw [List.lookup_eq_none_iff]
          intro other hother
          have hne : key ≠ other.1 := by
            rintro rfl
            exact hfirst (hkey ▸ List.mem_map.mpr ⟨other, hother, rfl⟩)
          simpa using hne
        rw [hnone, if_pos hkey, if_pos hkey]
        rfl
      · rw [if_neg hkey, if_neg hkey]

theorem get?_ofList {entries : List (String × Value)} (h : (entries.map Prod.fst).Nodup)
    (key : String) : Table.get? (.ofList entries) key = entries.lookup key :=
  (get?_insertEntries h .empty key).trans (Option.or_none ..)

end GestureGraph.Attributes
