import GestureGraph.Table

namespace GestureGraph.Table

open Std

section lookups

variable {κ α β : Type} [Ord κ] [TransOrd κ] [LawfulEqOrd κ] [DecidableEq κ]

theorem get?_insert_eq (t : Table κ α) (key k : κ) (value : α) :
    (t.insert key value).get? k = if k = key then some value else t.get? k := by
  rw [get?_insert]
  by_cases h : k = key
  · simp [h, ReflCmp.compare_self]
  · have hc : compare k key ≠ .eq := fun he => h (LawfulEqCmp.eq_of_compare he)
    simp [h, hc]

theorem insert_comm (t : Table κ α) {key key' : κ} (h : key ≠ key') (value value' : α) :
    (t.insert key value).insert key' value' = (t.insert key' value').insert key value := by
  apply ext_get?
  intro k
  simp only [get?_insert_eq]
  by_cases hk : k = key
  · subst hk
    simp [h]
  · simp [hk]

theorem contains_insert_iff (t : Table κ α) (key k : κ) (value : α) :
    (t.insert key value).contains k = true ↔ k = key ∨ t.contains k = true := by
  by_cases h : k = key <;> simp [contains, get?_insert_eq, h]

theorem get?_modify (t : Table κ α) (key k : κ) (f : α → α) :
    (t.modify key f).get? k = if k = key then (t.get? key).map f else t.get? k := by
  simp only [modify]
  cases hk : t.get? key with
  | none =>
      by_cases h : k = key
      · subst h
        simp [hk]
      · simp [h]
  | some a => simp [get?_insert_eq]

theorem contains_modify (t : Table κ α) (key k : κ) (f : α → α) :
    (t.modify key f).contains k = t.contains k := by
  by_cases h : k = key
  · subst h
    simp [contains, get?_modify]
  · simp [contains, get?_modify, h]

omit [LawfulEqOrd κ] [DecidableEq κ] in
theorem size_modify (t : Table κ α) (key : κ) (f : α → α) : (t.modify key f).size = t.size := by
  simp only [modify]
  cases hk : t.get? key with
  | none => rfl
  | some a => simp [size_insert, contains, hk]

theorem insert_of_get? {t : Table κ α} {key : κ} {value : α} (h : t.get? key = some value) :
    t.insert key value = t := by
  apply ext_get?
  intro k
  rw [get?_insert_eq]
  by_cases hk : k = key
  · rw [if_pos hk, hk, h]
  · rw [if_neg hk]

omit [TransOrd κ] in
theorem get?_erase (t : Table κ α) (key k : κ) :
    (t.erase key).get? k = if k = key then none else t.get? k := by
  obtain ⟨l, hl⟩ := t
  simp only [erase, get?]
  clear hl
  induction l with
  | nil => simp [lookupEntry]
  | cons e rest ih =>
      obtain ⟨k', a⟩ := e
      by_cases hk' : k' = key
      · subst hk'
        have hc : compare k' k' = .eq := ReflCmp.compare_self
        simp only [hc, ne_eq, not_true, decide_false, List.filter_cons, Bool.false_eq_true,
          if_false, ih, lookupEntry]
        by_cases h : k = k'
        · simp [h]
        · have hn : compare k k' ≠ .eq := fun he => h (LawfulEqCmp.eq_of_compare he)
          simp [h, hn]
      · have hc : compare key k' ≠ .eq := fun he => hk' (LawfulEqCmp.eq_of_compare he).symm
        simp only [hc, ne_eq, not_false_eq_true, decide_true, List.filter_cons, if_true,
          lookupEntry, ih]
        by_cases h : compare k k' = .eq
        · have hkk : k = k' := LawfulEqCmp.eq_of_compare h
          subst hkk
          simp [hk']
        · simp [h]

end lookups

section map

variable {κ α β : Type} [Ord κ]

def map (f : α → β) (t : Table κ α) : Table κ β :=
  ⟨t.entries.map fun e => (e.1, f e.2), List.pairwise_map.mpr t.ascending⟩

theorem get?_map (f : α → β) (t : Table κ α) (key : κ) :
    (t.map f).get? key = (t.get? key).map f := by
  obtain ⟨l, hl⟩ := t
  simp only [map, get?]
  clear hl
  induction l with
  | nil => rfl
  | cons e rest ih =>
      obtain ⟨k, a⟩ := e
      simp only [List.map_cons, lookupEntry]
      split
      · rfl
      · exact ih

theorem contains_map (f : α → β) (t : Table κ α) (key : κ) :
    (t.map f).contains key = t.contains key := by
  simp [contains, get?_map]

variable [TransOrd κ] [LawfulEqOrd κ] [DecidableEq κ]

theorem map_insert (f : α → β) (t : Table κ α) (key : κ) (value : α) :
    (t.insert key value).map f = (t.map f).insert key (f value) := by
  apply ext_get?
  intro k
  rw [get?_map, get?_insert_eq, get?_insert_eq, get?_map]
  by_cases h : k = key <;> simp [h]

theorem map_modify {f : α → β} {g : α → α} {g' : β → β} (t : Table κ α) (key : κ)
    (h : ∀ a, f (g a) = g' (f a)) : (t.modify key g).map f = (t.map f).modify key g' := by
  apply ext_get?
  intro k
  rw [get?_map, get?_modify, get?_modify, get?_map, get?_map]
  by_cases hk : k = key
  · cases t.get? key <;> simp [hk, h]
  · simp [hk]

theorem map_modify_of_eq {f : α → β} {g : α → α} (t : Table κ α) (key : κ)
    (h : ∀ a, f (g a) = f a) : (t.modify key g).map f = t.map f := by
  apply ext_get?
  intro k
  rw [get?_map, get?_modify, get?_map]
  by_cases hk : k = key
  · cases hv : t.get? key <;> simp [hk, hv, h]
  · simp [hk]

end map

end GestureGraph.Table
