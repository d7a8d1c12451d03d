import GestureGraph.Text.CharSet

namespace GestureGraph.Pattern

/-- A character of a pattern. One that is written as a byte means a byte where Unicode is off. -/
structure Literal where
  code : Nat
  byte : Bool := false
  deriving Repr, DecidableEq

inductive NamedClass where
  | decimal
  | blank
  | word
  deriving Repr, DecidableEq

inductive Query where
  | name (name : String)
  | value (property value : String)
  deriving Repr, DecidableEq

inductive SetOp where
  | inter
  | diff
  | symmDiff
  deriving Repr, DecidableEq

def SetOp.apply : SetOp → Text.CharSet → Text.CharSet → Text.CharSet
  | .inter => .inter
  | .diff => .diff
  | .symmDiff => .symmDiff

inductive CharClass where
  | literal (l : Literal)
  | range (first last : Literal)
  | ascii (chars : Text.CharSet) (negated : Bool)
  | named (name : NamedClass) (negated : Bool)
  | property (query : Query) (negated : Bool)
  | union (items : List CharClass)
  | bracket (negated : Bool) (body : CharClass)
  | op (op : SetOp) (left right : CharClass)
  deriving Repr

namespace CharClass

def ofItems : List CharClass → CharClass
  | [item] => item
  | items => .union items

mutual

def depth : CharClass → Nat
  | .union [] => 0
  | .union (item :: items) => max item.depth (depthOf items) + 1
  | .bracket _ body => body.depth + 1
  | .op _ left right => max left.depth right.depth + 1
  | _ => 0

def depthOf : List CharClass → Nat
  | [] => 0
  | item :: items => max item.depth (depthOf items)

end

end CharClass

inductive WordRule where
  | boundary
  | inner
  | start
  | stop
  | startHalf
  | stopHalf
  deriving Repr, DecidableEq

def WordRule.holds (before after : Bool) : WordRule → Bool
  | .boundary => before != after
  | .inner => before == after
  | .start => !before && after
  | .stop => before && !after
  | .startHalf => !before
  | .stopHalf => !after

inductive Assertion where
  | textStart
  | textStop
  | lineStart
  | lineStop
  | word (rule : WordRule)
  deriving Repr, DecidableEq

inductive Flag where
  | ignoreCase
  | multiLine
  | dotAll
  | swapGreed
  | unicode
  | crlf
  | verbose
  deriving Repr, DecidableEq

structure FlagChange where
  flag : Flag
  on : Bool
  deriving Repr, DecidableEq

inductive Tree where
  | empty
  | change (changes : List FlagChange)
  | literal (l : Literal)
  | dot
  | assertion (a : Assertion)
  | cls (c : CharClass)
  | times (sub : Tree) (least : Nat) (most? : Option Nat) (greedy : Bool)
  | group (capturing : Bool) (changes : List FlagChange) (sub : Tree)
  | branches (trees : List Tree)
  | parts (trees : List Tree)
  deriving Repr

namespace Tree

def ofParts : List Tree → Tree
  | [] => .empty
  | [tree] => tree
  | trees => .parts trees

mutual

def depth : Tree → Nat
  | .cls (.bracket negated body) => (CharClass.bracket negated body).depth
  | .times sub _ _ _ => sub.depth + 1
  | .group _ _ sub => sub.depth + 1
  | .branches trees => depthOf trees + 1
  | .parts trees => depthOf trees + 1
  | _ => 0

def depthOf : List Tree → Nat
  | [] => 0
  | tree :: trees => max tree.depth (depthOf trees)

end

end Tree

end GestureGraph.Pattern
