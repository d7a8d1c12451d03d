import GestureGraph.Decimal.Layout
import GestureGraph.Text.Quoted

namespace GestureGraph

inductive Value where
  | nil
  | bool (b : Bool)
  | int (i : Int64)
  | float (x : Float)
  | str (s : String)
  | list (items : List Value)
  | failed (message : String)
  deriving Repr, Inhabited

namespace Value

def isAtom : Value → Bool
  | .list _ => false
  | _ => true

def isNil : Value → Bool
  | .nil => true
  | _ => false

def isFailed : Value → Bool
  | .failed _ => true
  | _ => false

def str? : Value → Option String
  | .str s => some s
  | _ => none

def keyOf? (s : String) : Option String :=
  match s.toList with
  | ':' :: key => some (String.ofList key)
  | _ => none

def keyword? : Value → Option String
  | .str s => keyOf? s
  | _ => none

def isKeyword (v : Value) : Bool := v.keyword?.isSome

def boolText (b : Bool) : String := if b then "true" else "false"

def intText (i : Int64) : String := toString i.toInt

def name? : Value → Option String
  | .str s => some s
  | .int i => some (intText i)
  | .float x => some (Decimal.displayed x)
  | .bool b => some (boolText b)
  | _ => none

mutual

def display : Value → String
  | .nil => "nil"
  | .bool b => boolText b
  | .int i => intText i
  | .float x => Decimal.displayed x
  | .str s => s
  | .list items => "(" ++ displayAll items ++ ")"
  | .failed message => "ERROR: " ++ message

def displayAll : List Value → String
  | [] => ""
  | [v] => display v
  | v :: w :: vs => display v ++ " " ++ displayAll (w :: vs)

end

mutual

/-- The text of a value as source: operand strings quoted, list heads and keywords bare. -/
def quotedBy (shows : Char → Bool) : Value → String
  | .str s => if (keyOf? s).isSome then s else Text.quotedBy shows s
  | .list [] => "()"
  | .list (.str head :: items) => "(" ++ head ++ quotedRest shows items ++ ")"
  | .list (v :: items) => "(" ++ quotedBy shows v ++ quotedRest shows items ++ ")"
  | .nil => display .nil
  | .bool b => display (.bool b)
  | .int i => display (.int i)
  | .float x => display (.float x)
  | .failed message => display (.failed message)

def quotedRest (shows : Char → Bool) : List Value → String
  | [] => ""
  | v :: vs => " " ++ quotedBy shows v ++ quotedRest shows vs

end

def quoted (v : Value) : String := v.quotedBy Text.isVisible

mutual

/-- Equality of values, with floats compared as numbers: not-a-number differs from itself, and the
two zeros agree. -/
def same : Value → Value → Bool
  | .nil, .nil => true
  | .bool a, .bool b => a == b
  | .int a, .int b => a == b
  | .float a, .float b => a == b
  | .str a, .str b => a == b
  | .list as, .list bs => sameAll as bs
  | .failed a, .failed b => a == b
  | _, _ => false

def sameAll : List Value → List Value → Bool
  | [], [] => true
  | a :: as, b :: bs => same a b && sameAll as bs
  | _, _ => false

end

def oneOrMany : List Value → Value
  | [v] => v
  | vs => .list vs

end Value

end GestureGraph
