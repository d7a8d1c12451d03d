/-!
Sets and maps of characters, written as rows of hexadecimal entries with a blank between two
entries. An entry of a set is `41`, `41-5A` for a run of neighbours, or `100~12E` for every second
character of a run; an entry of a map names its source, a sign, and its target.
-/

namespace GestureGraph.Text

def fields (sep : Char) : List Char → List (List Char)
  | [] => [[]]
  | c :: cs =>
      if c = sep then [] :: fields sep cs
      else
        match fields sep cs with
        | [] => [[c]]
        | field :: rest => (c :: field) :: rest

theorem fields_ne_nil (sep : Char) (cs : List Char) : fields sep cs ≠ [] := by
  induction cs with
  | nil => simp [fields]
  | cons c cs ih =>
      simp only [fields]
      split
      · simp
      · split <;> simp

def entries (rows : List String) : List (List Char) :=
  rows.flatMap fun row => fields ' ' row.toList

def hexDigit (c : Char) : Nat :=
  if '0' ≤ c ∧ c ≤ '9' then c.toNat - '0'.toNat
  else if 'A' ≤ c ∧ c ≤ 'F' then c.toNat - 'A'.toNat + 10
  else if 'a' ≤ c ∧ c ≤ 'f' then c.toNat - 'a'.toNat + 10
  else 0

def hexNat (cs : List Char) : Nat := cs.foldl (fun n c => 16 * n + hexDigit c) 0

def decNat (cs : List Char) : Nat := cs.foldl (fun n c => 10 * n + (c.toNat - '0'.toNat)) 0

structure Range where
  first : Nat
  last : Nat
  deriving Repr, DecidableEq

def Range.contains (r : Range) (n : Nat) : Bool := r.first ≤ n && n ≤ r.last

def Range.ofField (field : List Char) : Range :=
  match fields '-' field with
  | first :: last :: _ => ⟨hexNat first, hexNat last⟩
  | _ => ⟨hexNat field, hexNat field⟩

abbrev CharSet := List Range

def CharSet.contains (set : CharSet) (c : Char) : Bool := set.any (·.contains c.toNat)

theorem CharSet.contains_eq_true_iff {set : CharSet} {c : Char} :
    set.contains c = true ↔ ∃ r ∈ set, r.first ≤ c.toNat ∧ c.toNat ≤ r.last := by
  simp [CharSet.contains, Range.contains]

def cutField (sign : Char) (field : List Char) : List Char × List Char :=
  (field.takeWhile (· ≠ sign), (field.dropWhile (· ≠ sign)).drop 1)

def everySecond (first last : Nat) : CharSet :=
  (List.range ((last - first) / 2 + 1)).map fun i => ⟨first + 2 * i, first + 2 * i⟩

def CharSet.ofField (field : List Char) : CharSet :=
  let (first, last) := cutField '~' field
  if last.isEmpty then [Range.ofField field] else everySecond (hexNat first) (hexNat last)

def CharSet.ofRows (rows : List String) : CharSet := (entries rows).flatMap CharSet.ofField

end GestureGraph.Text
