import GestureGraph.Value

namespace GestureGraph

inductive Json where
  | null
  | bool (b : Bool)
  | int (i : Int)
  | float (x : Float)
  | str (s : String)
  | arr (items : List Json)
  | obj (members : List (String × Json))
  deriving Repr, Inhabited

namespace Json

/-- Floats keep a decimal point, take an exponent below 0.00001 and from 10^16 on, and are null when
they are not finite. -/
def number : Decimal.Layout where
  tie := .toEven
  positional point := -4 ≤ point && point ≤ 16
  whole := ".0"
  nan := "null"
  infinite _ := "null"

def hexByte (n : Nat) : List Char :=
  let digits := Nat.toDigits 16 n
  List.replicate (2 - digits.length) '0' ++ digits

def escapeChar (c : Char) : List Char :=
  if c = '"' then ['\\', '"']
  else if c = '\\' then ['\\', '\\']
  else if c = '\n' then ['\\', 'n']
  else if c = '\r' then ['\\', 'r']
  else if c = '\t' then ['\\', 't']
  else if c.toNat = 8 then ['\\', 'b']
  else if c.toNat = 12 then ['\\', 'f']
  else if c.toNat < 0x20 then ['\\', 'u', '0', '0'] ++ hexByte c.toNat
  else [c]

def quote (s : String) : String :=
  String.ofList ('"' :: s.toList.flatMap escapeChar ++ ['"'])

mutual

def compact : Json → String
  | .null => "null"
  | .bool b => Value.boolText b
  | .int i => toString i
  | .float x => number.write x
  | .str s => quote s
  | .arr items => "[" ++ compactItems items ++ "]"
  | .obj members => "\x7b" ++ compactMembers members ++ "\x7d"

def compactItems : List Json → String
  | [] => ""
  | [j] => compact j
  | j :: k :: js => compact j ++ "," ++ compactItems (k :: js)

def compactMembers : List (String × Json) → String
  | [] => ""
  | [(key, j)] => quote key ++ ":" ++ compact j
  | (key, j) :: m :: ms => quote key ++ ":" ++ compact j ++ "," ++ compactMembers (m :: ms)

end

def newline (level : Nat) : String := "\n" ++ String.ofList (List.replicate (2 * level) ' ')

mutual

def prettyAt (level : Nat) : Json → String
  | .arr (j :: js) => "[" ++ prettyItems (level + 1) (j :: js) ++ newline level ++ "]"
  | .obj (m :: ms) => "\x7b" ++ prettyMembers (level + 1) (m :: ms) ++ newline level ++ "\x7d"
  | .null => "null"
  | .bool b => Value.boolText b
  | .int i => toString i
  | .float x => number.write x
  | .str s => quote s
  | .arr [] => "[]"
  | .obj [] => "\x7b\x7d"

def prettyItems (level : Nat) : List Json → String
  | [] => ""
  | [j] => newline level ++ prettyAt level j
  | j :: k :: js => newline level ++ prettyAt level j ++ "," ++ prettyItems level (k :: js)

def prettyMembers (level : Nat) : List (String × Json) → String
  | [] => ""
  | [(key, j)] => newline level ++ quote key ++ ": " ++ prettyAt level j
  | (key, j) :: m :: ms =>
      newline level ++ quote key ++ ": " ++ prettyAt level j ++ "," ++ prettyMembers level (m :: ms)

end

def pretty (j : Json) : String := prettyAt 0 j

end Json

mutual

/-- A failure is written as its display text; everything else has a JSON kind of its own. -/
def Value.toJson : Value → Json
  | .nil => .null
  | .bool b => .bool b
  | .int i => .int i.toInt
  | .float x => .float x
  | .str s => .str s
  | .list items => .arr (toJsonAll items)
  | .failed message => .str ("ERROR: " ++ message)

def Value.toJsonAll : List Value → List Json
  | [] => []
  | v :: vs => v.toJson :: toJsonAll vs

end

end GestureGraph
