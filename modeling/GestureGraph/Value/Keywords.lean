import GestureGraph.Value

namespace GestureGraph

/-- Pairs `:key value`; inserting a key again replaces its value in place. -/
structure Keywords where
  entries : List (String × Value) := []
  deriving Repr, Inhabited

namespace Keywords

def insertEntry (key : String) (value : Value) : List (String × Value) → List (String × Value)
  | [] => [(key, value)]
  | (k, v) :: rest => if k = key then (k, value) :: rest else (k, v) :: insertEntry key value rest

def insert (kw : Keywords) (key : String) (value : Value) : Keywords :=
  ⟨insertEntry key value kw.entries⟩

def get? (kw : Keywords) (key : String) : Option Value := kw.entries.lookup key

def erase (kw : Keywords) (key : String) : Keywords :=
  ⟨kw.entries.eraseP (·.1 == key)⟩

def keys (kw : Keywords) : List String := kw.entries.map (·.1)

def size (kw : Keywords) : Nat := kw.entries.length

theorem get?_insert (kw : Keywords) (key k : String) (value : Value) :
    (kw.insert key value).get? k = if k = key then some value else kw.get? k := by
  obtain ⟨entries⟩ := kw
  simp only [get?, insert]
  induction entries with
  | nil =>
      by_cases h : k = key <;> simp [insertEntry, List.lookup_cons, h, beq_false_of_ne]
  | cons e rest ih =>
      obtain ⟨k', v'⟩ := e
      simp only [insertEntry]
      by_cases h' : k' = key
      · subst h'
        by_cases h : k = k'
        · simp [h]
        · simp [List.lookup_cons, h, beq_false_of_ne h]
      · simp only [h', if_false]
        by_cases hk : k = k'
        · subst hk; simp [h']
        · simpa [List.lookup_cons, beq_false_of_ne hk] using ih

theorem keys_insert (kw : Keywords) (key : String) (value : Value) :
    (kw.insert key value).keys = if key ∈ kw.keys then kw.keys else kw.keys ++ [key] := by
  obtain ⟨entries⟩ := kw
  simp only [keys, insert]
  induction entries with
  | nil => simp [insertEntry]
  | cons e rest ih =>
      obtain ⟨k', v'⟩ := e
      simp only [insertEntry]
      by_cases h' : k' = key
      · simp [h']
      · simp only [h', if_false, List.map_cons, ih, List.mem_cons]
        have h'' : key ≠ k' := fun h => h' h.symm
        by_cases hm : key ∈ rest.map (·.1) <;> simp [hm, h'']

end Keywords

structure Operands where
  positional : List Value
  pairs : List (String × Value)
  deriving Repr, Inhabited

/-- A keyword takes the operand right after it, whatever it is; one in last place gets true. -/
def Operands.split : List Value → Operands
  | [] => ⟨[], []⟩
  | [v] =>
      match v.keyword? with
      | some key => ⟨[], [(key, .bool true)]⟩
      | none => ⟨[v], []⟩
  | v :: w :: rest =>
      match v.keyword? with
      | some key =>
          let ops := Operands.split rest
          { ops with pairs := (key, w) :: ops.pairs }
      | none =>
          let ops := Operands.split (w :: rest)
          { ops with positional := v :: ops.positional }

def Operands.keywords (ops : Operands) : Keywords :=
  ops.pairs.foldl (fun kw pair => kw.insert pair.1 pair.2) {}

end GestureGraph
