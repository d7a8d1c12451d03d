import GestureGraph.Axioms
import GestureGraph.Intention
import GestureGraph.Token

/-!
Programs: the expressions of a text and the intentions of its comments. A list is a parenthesised
group whose first item is an operator; groups without items vanish, and so do groups that hold only
such groups.
-/

namespace GestureGraph

structure Program where
  expressions : List Value
  intentions : List String
  deriving Repr

namespace Program

def echoedLines : Nat := 5

def defaultDepth : Nat := 256

def numberLines : Nat → List (List Char) → List String
  | _, [] => []
  | n, line :: rest => (s!"  {n}: " ++ String.ofList line) :: numberLines (n + 1) rest

def echo (source : String) : String :=
  let lines := Text.lines source.toList
  if lines.length ≤ echoedLines then "\nSource:\n" ++ "\n".intercalate (numberLines 1 lines)
  else "\nTotal length: " ++ toString source.length ++ " characters"

def closeGroup (echo : String) : List Value → Except SyntaxError (Option Value)
  | [] => .ok none
  | head :: items =>
      if head.isKeyword then .error (.keywordHead head.display echo)
      else
        match head with
        | .str _ => .ok (some (.list (head :: items)))
        | _ => .error (.nonOperatorHead head.display echo)

/-- Reads tokens inside the groups that are open. `items` are those of the innermost group, newest
first, and `outer` those of the groups around it. -/
def parseIn (max : Nat) (echo : String) (items : List Value) (outer : List (List Value)) :
    List Token → Except SyntaxError (List Value)
  | [] =>
      match outer with
      | [] => .ok items.reverse
      | _ :: _ => .error (.unclosedList echo)
  | t :: ts =>
      match t.kind with
      | .openParen =>
          if max ≤ outer.length then .error (.tooDeep (outer.length + 1) max echo)
          else parseIn max echo [] (items :: outer) ts
      | .closeParen =>
          match outer with
          | [] => .error (.unexpectedClose echo)
          | parent :: outer =>
              match closeGroup echo items.reverse with
              | .error e => .error e
              | .ok none => parseIn max echo parent outer ts
              | .ok (some v) => parseIn max echo (v :: parent) outer ts
      | _ => parseIn max echo (t.value :: items) outer ts

/-- All expressions of a token list, with lists nested at most `max` deep; the bound is at least
one. -/
def parse (max : Nat) (echo : String) (tokens : List Token) : Except SyntaxError (List Value) :=
  parseIn (Nat.max max 1) echo [] [] tokens

end Program

inductive ReadError where
  | limit (e : LimitError)
  | syntactic (e : SyntaxError)
  deriving Repr, DecidableEq

namespace Program

/-- Banned phrases are looked for before anything else. -/
def read (axioms : Axioms) (origin source : String) : Except ReadError Program := do
  (axioms.checkPhrases source).mapError .limit
  let tokens ← (Token.scan origin source).mapError .syntactic
  let expressions ←
    (parse axioms.limits.parseDepth (echo source) tokens).mapError .syntactic
  return ⟨expressions, intentionsOf source⟩

end Program

end GestureGraph
