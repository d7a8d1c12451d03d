namespace GestureGraph

open Std

structure Table (κ α : Type) [Ord κ] where
  entries : List (κ × α)
  ascending : entries.Pairwise fun a b => compare a.1 b.1 = .lt

namespace Table

variable {κ α : Type} [Ord κ]

def empty : Table κ α := ⟨[], .nil⟩

instance : EmptyCollection (Table κ α) := ⟨empty⟩

instance : Inhabited (Table κ α) := ⟨empty⟩

def keys (t : Table κ α) : List κ := t.entries.map (·.1)

def values (t : Table κ α) : List α := t.entries.map (·.2)

def size (t : Table κ α) : Nat := t.entries.length

def isEmpty (t : Table κ α) : Bool := t.entries.isEmpty

def lookupEntry (key : κ) : List (κ × α) → Option α
  | [] => none
  | (k, a) :: rest => if compare key k = .eq then some a else lookupEntry key rest

def get? (t : Table κ α) (key : κ) : Option α := lookupEntry key t.entries

def contains (t : Table κ α) (key : κ) : Bool := (t.get? key).isSome

def insertEntry (key : κ) (value : α) : List (κ × α) → List (κ × α)
  | [] => [(key, value)]
  | (k, a) :: rest =>
      match compare key k with
      | .lt => (key, value) :: (k, a) :: rest
      | .eq => (key, value) :: rest
      | .gt => (k, a) :: insertEntry key value rest

theorem mem_insertEntry {key : κ} {value : α} {e : κ × α} {l : List (κ × α)}
    (h : e ∈ insertEntry key value l) : e = (key, value) ∨ e ∈ l := by
  induction l with
  | nil => simpa [insertEntry] using h
  | cons x rest ih =>
      obtain ⟨k, a⟩ := x
      simp only [insertEntry] at h
      split at h
      · simpa using h
      · rcases List.mem_cons.mp h with h | h
        · exact Or.inl h
        · exact Or.inr (List.mem_cons_of_mem _ h)
      · rcases List.mem_cons.mp h with h | h
        · exact Or.inr (h ▸ List.mem_cons_self)
        · rcases ih h with h | h
          · exact Or.inl h
          · exact Or.inr (List.mem_cons_of_mem _ h)

theorem ascending_insertEntry [TransOrd κ] {key : κ} {value : α} {l : List (κ × α)}
    (h : l.Pairwise fun a b => compare a.1 b.1 = .lt) :
    (insertEntry key value l).Pairwise fun a b => compare a.1 b.1 = .lt := by
  induction l with
  | nil => simp [insertEntry]
  | cons x rest ih =>
      obtain ⟨k, a⟩ := x
      obtain ⟨hfirst, hrest⟩ := List.pairwise_cons.mp h
      simp only [insertEntry]
      split
      · rename_i hlt
        refine List.pairwise_cons.mpr ⟨fun e he => ?_, h⟩
        rcases List.mem_cons.mp he with he | he
        · exact he ▸ hlt
        · exact TransCmp.lt_trans hlt (hfirst e he)
      · rename_i heq
        exact List.pairwise_cons.mpr
          ⟨fun e he => TransCmp.lt_of_eq_of_lt heq (hfirst e he), hrest⟩
      · rename_i hgt
        refine List.pairwise_cons.mpr ⟨fun e he => ?_, ih hrest⟩
        rcases mem_insertEntry he with he | he
        · exact he ▸ OrientedCmp.lt_of_gt hgt
        · exact hfirst e he

variable [TransOrd κ]

def insert (t : Table κ α) (key : κ) (value : α) : Table κ α :=
  ⟨insertEntry key value t.entries, ascending_insertEntry t.ascending⟩

def ofList (pairs : List (κ × α)) : Table κ α :=
  pairs.foldl (fun t pair => t.insert pair.1 pair.2) empty

def erase (t : Table κ α) (key : κ) : Table κ α :=
  ⟨t.entries.filter fun e => compare key e.1 ≠ .eq, t.ascending.filter _⟩

def modify (t : Table κ α) (key : κ) (f : α → α) : Table κ α :=
  match t.get? key with
  | some a => t.insert key (f a)
  | none => t

omit [TransOrd κ] in
@[simp] theorem get?_empty (key : κ) : (empty : Table κ α).get? key = none := rfl

theorem lookupEntry_insertEntry (key k : κ) (value : α) (l : List (κ × α)) :
    lookupEntry k (insertEntry key value l) =
      if compare k key = .eq then some value else lookupEntry k l := by
  induction l with
  | nil => simp [insertEntry, lookupEntry]
  | cons x rest ih =>
      obtain ⟨k', a⟩ := x
      simp only [insertEntry]
      split
      · simp [lookupEntry]
      · rename_i heq
        simp only [lookupEntry]
        by_cases hk : compare k key = .eq
        · simp [hk]
        · have : compare k k' ≠ .eq := fun h => hk (TransCmp.eq_trans h (OrientedCmp.eq_symm heq))
          simp [hk, this]
      · rename_i hgt
        simp only [lookupEntry, ih]
        by_cases hk : compare k key = .eq
        · have : compare k k' = .gt := TransCmp.gt_of_eq_of_gt hk hgt
          simp [hk, this]
        · simp [hk]

theorem get?_insert (t : Table κ α) (key k : κ) (value : α) :
    (t.insert key value).get? k = if compare k key = .eq then some value else t.get? k :=
  lookupEntry_insertEntry key k value t.entries

@[simp] theorem get?_insert_self (t : Table κ α) (key : κ) (value : α) :
    (t.insert key value).get? key = some value := by
  simp [get?_insert, ReflCmp.compare_self]

omit [TransOrd κ] in
theorem lookupEntry_eq_none_iff {key : κ} {l : List (κ × α)} :
    lookupEntry key l = none ↔ ∀ e ∈ l, compare key e.1 ≠ .eq := by
  induction l with
  | nil => simp [lookupEntry]
  | cons x rest ih =>
      obtain ⟨k, a⟩ := x
      by_cases hk : compare key k = .eq <;> simp [lookupEntry, hk, ih]

theorem size_insert (t : Table κ α) (key : κ) (value : α) :
    (t.insert key value).size = if t.contains key then t.size else t.size + 1 := by
  obtain ⟨l, hl⟩ := t
  simp only [insert, size, contains, get?]
  induction l with
  | nil => simp [insertEntry, lookupEntry]
  | cons x rest ih =>
      obtain ⟨k, a⟩ := x
      obtain ⟨hfirst, hrest⟩ := List.pairwise_cons.mp hl
      simp only [insertEntry]
      split
      · rename_i hlt
        have hnone : lookupEntry key ((k, a) :: rest) = none := by
          refine lookupEntry_eq_none_iff.mpr fun e he => ?_
          rcases List.mem_cons.mp he with he | he
          · simp [he, hlt]
          · simp [TransCmp.lt_trans hlt (hfirst e he)]
        simp [hnone]
      · rename_i heq
        simp [lookupEntry, heq]
      · rename_i hgt
        have := ih hrest
        simp only [lookupEntry, hgt, List.length_cons]
        rw [this]
        by_cases h : (lookupEntry key rest).isSome = true <;> simp [h]

omit [TransOrd κ] in
theorem lookupEntry_eq_none_of_lt {key : κ} {l : List (κ × α)}
    (h : ∀ e ∈ l, compare key e.1 = .lt) : lookupEntry key l = none :=
  lookupEntry_eq_none_iff.mpr fun e he => by simp [h e he]

theorem entries_eq_of_lookupEntry [LawfulEqOrd κ] {l₁ l₂ : List (κ × α)}
    (h₁ : l₁.Pairwise fun a b => compare a.1 b.1 = .lt)
    (h₂ : l₂.Pairwise fun a b => compare a.1 b.1 = .lt)
    (h : ∀ key, lookupEntry key l₁ = lookupEntry key l₂) : l₁ = l₂ := by
  induction l₁ generalizing l₂ with
  | nil =>
      cases l₂ with
      | nil => rfl
      | cons y ys =>
          have := h y.1
          simp [lookupEntry, ReflCmp.compare_self] at this
  | cons x xs ih =>
      obtain ⟨k₁, a₁⟩ := x
      obtain ⟨hx, hxs⟩ := List.pairwise_cons.mp h₁
      cases l₂ with
      | nil =>
          have := h k₁
          simp [lookupEntry, ReflCmp.compare_self] at this
      | cons y ys =>
          obtain ⟨k₂, a₂⟩ := y
          obtain ⟨hy, hys⟩ := List.pairwise_cons.mp h₂
          have hkey : k₁ = k₂ := by
            refine LawfulEqCmp.eq_of_compare (?_ : compare k₁ k₂ = .eq)
            cases hc : compare k₁ k₂ with
            | eq => rfl
            | lt =>
                have hn : lookupEntry k₁ ((k₂, a₂) :: ys) = none :=
                  lookupEntry_eq_none_of_lt fun e he => by
                    rcases List.mem_cons.mp he with he | he
                    · exact he ▸ hc
                    · exact TransCmp.lt_trans hc (hy e he)
                have := h k₁
                rw [hn] at this
                simp [lookupEntry, ReflCmp.compare_self] at this
            | gt =>
                have hn : lookupEntry k₂ ((k₁, a₁) :: xs) = none :=
                  lookupEntry_eq_none_of_lt fun e he => by
                    rcases List.mem_cons.mp he with he | he
                    · exact he ▸ OrientedCmp.lt_of_gt hc
                    · exact TransCmp.lt_trans (OrientedCmp.lt_of_gt hc) (hx e he)
                have := h k₂
                rw [hn] at this
                simp [lookupEntry, ReflCmp.compare_self] at this
          subst hkey
          have hval : a₁ = a₂ := by
            have := h k₁
            simpa [lookupEntry, ReflCmp.compare_self] using this
          subst hval
          have htail : xs = ys := ih hxs hys fun key => by
            by_cases hk : compare key k₁ = .eq
            · have hkk := LawfulEqCmp.eq_of_compare hk
              subst hkk
              rw [lookupEntry_eq_none_of_lt hx, lookupEntry_eq_none_of_lt hy]
            · have := h key
              simpa [lookupEntry, hk] using this
          rw [htail]

theorem ext_get? [LawfulEqOrd κ] {t₁ t₂ : Table κ α} (h : ∀ key, t₁.get? key = t₂.get? key) :
    t₁ = t₂ := by
  obtain ⟨l₁, h₁⟩ := t₁
  obtain ⟨l₂, h₂⟩ := t₂
  have : l₁ = l₂ := entries_eq_of_lookupEntry h₁ h₂ h
  subst this
  rfl

end Table

end GestureGraph
