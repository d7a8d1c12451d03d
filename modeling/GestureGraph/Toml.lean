namespace GestureGraph

inductive TableKind where
  /-- Named on the way to another header. -/
  | passed
  /-- Opened by a header of its own. -/
  | opened
  /-- Made by a dotted key. -/
  | dotted
  /-- Written between braces. -/
  | inline
  deriving Repr, DecidableEq

inductive Toml where
  | string (s : String)
  | integer (i : Int)
  | float (x : Float)
  | boolean (b : Bool)
  | moment (text : String)
  | array (items : List Toml)
  | tables (items : List Toml)
  | table (kind : TableKind) (members : List (String × Toml))
  deriving Repr, Inhabited

namespace Toml

abbrev Members := List (String × Toml)

def put (key : String) (value : Toml) : Members → Members
  | [] => [(key, value)]
  | (k, v) :: rest => if k = key then (k, value) :: rest else (k, v) :: put key value rest

/-- Adds a member under a dotted key. Tables on the way must not have been opened, but for the last
one of a list of tables, and the last table must have been made by a dotted key. -/
def assign (value : Toml) : List String → Members → Option Members
  | [], _ => none
  | [key], members =>
      if (members.lookup key).isSome then none else some (members ++ [(key, value)])
  | key :: next :: rest, members =>
      match members.lookup key with
      | none => (assign value (next :: rest) []).map fun inner =>
          put key (.table .dotted inner) members
      | some (.table .dotted inner) => (assign value (next :: rest) inner).map fun inner =>
          put key (.table .dotted inner) members
      | some (.table .passed inner) =>
          if rest = [] then none
          else (assign value (next :: rest) inner).map fun inner =>
            put key (.table .passed inner) members
      | some (.tables items) =>
          match items.getLast? with
          | some (.table kind inner) =>
              if rest = [] then none
              else (assign value (next :: rest) inner).map fun inner =>
                put key (.tables (items.dropLast ++ [.table kind inner])) members
          | _ => none
      | some _ => none

inductive Opening where
  | table
  | item

def Opening.apply (o : Opening) (key : String) (members : Members) : Option Members :=
  match o, members.lookup key with
  | .table, none => some (put key (.table .opened []) members)
  | .table, some (.table .passed inner) => some (put key (.table .opened inner) members)
  | .item, none => some (put key (.tables [.table .opened []]) members)
  | .item, some (.tables items) => some (put key (.tables (items ++ [.table .opened []])) members)
  | _, _ => none

/-- Follows a path to the table that a header means; in a list of tables that is the last one. -/
def follow (create : Bool) (f : Members → Option Members) : List String → Members → Option Members
  | [], members => f members
  | key :: rest, members =>
      match members.lookup key with
      | none =>
          if create then (follow create f rest []).map fun inner =>
            put key (.table .passed inner) members
          else none
      | some (.table .inline _) => none
      | some (.table kind inner) => (follow create f rest inner).map fun inner =>
          put key (.table kind inner) members
      | some (.tables items) =>
          match items.getLast? with
          | some (.table kind inner) => (follow create f rest inner).map fun inner =>
              put key (.tables (items.dropLast ++ [.table kind inner])) members
          | _ => none
      | some _ => none

inductive Statement where
  | header (opening : Opening) (path : List String)
  | assignment (path : List String) (value : Toml)

structure Draft where
  members : Members := []
  current : List String := []

def Draft.add (d : Draft) : Statement → Option Draft
  | .header opening path =>
      match path.getLast? with
      | none => none
      | some key => (follow true (opening.apply key) path.dropLast d.members).map (⟨·, path⟩)
  | .assignment path value =>
      (follow false (assign value path) d.current d.members).map ({ d with members := · })

def build (statements : List Statement) : Option Members :=
  (statements.foldlM Draft.add {}).map (·.members)

def str? : Toml → Option String
  | .string s => some s
  | _ => none

def nat? : Toml → Option Nat
  | .integer i => if 0 ≤ i then some i.toNat else none
  | _ => none

def strings? : Toml → Option (List String)
  | .array items => items.mapM str?
  | _ => none

end Toml

end GestureGraph
