import GestureGraph.Pattern.Reader.Atom

namespace GestureGraph.Pattern

def single (c : Char) : CharClass := .literal ⟨c.toNat, false⟩

def asciiChars? (name : String) : Option Text.CharSet :=
  match name with
  | "alnum" => some (.ofRows ["30-39 41-5A 61-7A"])
  | "alpha" => some (.ofRows ["41-5A 61-7A"])
  | "ascii" => some (.ofRows ["0-7F"])
  | "blank" => some (.ofRows ["9 20"])
  | "cntrl" => some (.ofRows ["0-1F 7F"])
  | "digit" => some (.ofRows ["30-39"])
  | "graph" => some (.ofRows ["21-7E"])
  | "lower" => some (.ofRows ["61-7A"])
  | "print" => some (.ofRows ["20-7E"])
  | "punct" => some (.ofRows ["21-2F 3A-40 5B-60 7B-7E"])
  | "space" => some (.ofRows ["9-D 20"])
  | "upper" => some (.ofRows ["41-5A"])
  | "word" => some (.ofRows ["30-39 41-5A 5F 61-7A"])
  | "xdigit" => some (.ofRows ["30-39 41-46 61-66"])
  | _ => none

def negation : List Char → Bool × List Char
  | '^' :: cs => (true, cs)
  | cs => (false, cs)

def asciiClass? : Reader CharClass
  | ':' :: cs =>
      let (negated, cs) := negation cs
      match cs.dropWhile (· ≠ ':') with
      | ':' :: ']' :: rest =>
          (asciiChars? (String.ofList (cs.takeWhile (· ≠ ':')))).map fun chars =>
            (.ascii chars negated, rest)
      | _ => none
  | _ => none

def atom? (verbose : Bool) : Reader Atom
  | [] => none
  | '\\' :: cs => escape? verbose cs
  | c :: cs => some (.literal ⟨c.toNat, false⟩, cs)

/-- The next character after a hyphen. Among gaps, one comment sign is looked past but not the
comment behind it. -/
def peekPast : (seen : Bool) → List Char → Option Char
  | _, [] => none
  | seen, c :: cs =>
      if Text.isBlank c then peekPast seen cs
      else if c = '#' ∧ ¬ seen then peekPast true cs
      else some c

def peek (verbose : Bool) (cs : List Char) : Option Char :=
  if verbose then peekPast false cs else cs.head?

/-- An item or a range. A hyphen before a bracket or another hyphen makes no range; a range has a
character at either end and must not run backwards. -/
def item? (verbose : Bool) : Reader CharClass := fun cs =>
  (atom? verbose cs).bind fun (first, rest) =>
    match skip verbose rest with
    | [] => none
    | '-' :: after =>
        if peek verbose after = some ']' ∨ peek verbose after = some '-' then
          first.classItem?.map (·, '-' :: after)
        else
          match first, atom? verbose (skip verbose after) with
          | .literal low, some (.literal high, rest) =>
              if low.code ≤ high.code then some (.range low high, rest) else none
          | _, _ => none
    | rest => first.classItem?.map (·, rest)

/-- What stands before the items of a class: a caret, then hyphens, or else one closing bracket,
that stand for themselves. The items are given newest first. -/
def opening (verbose : Bool) (cs : List Char) : Bool × List CharClass × List Char :=
  let (negated, cs) := negation (skip verbose cs)
  match takeRun verbose (· = '-') (skip verbose cs) with
  | ([], ']' :: rest) => (negated, [single ']'], rest)
  | (hyphens, rest) => (negated, hyphens.map single, rest)

def endOperand (left? : Option (SetOp × CharClass)) (items : List CharClass) : CharClass :=
  let right := CharClass.ofItems items.reverse
  match left? with
  | none => right
  | some (op, left) => .op op left right

/-- The body of a class up to its closing bracket. Every step takes at least one character. -/
def bodyIn (verbose : Bool) : (fuel : Nat) → Option (SetOp × CharClass) → List CharClass →
    Reader CharClass
  | 0, _, _, _ => none
  | fuel + 1, left?, items, cs =>
      match skip verbose cs with
      | [] => none
      | ']' :: rest => some (endOperand left? items, rest)
      | '&' :: '&' :: rest => bodyIn verbose fuel (some (.inter, endOperand left? items)) [] rest
      | '-' :: '-' :: rest => bodyIn verbose fuel (some (.diff, endOperand left? items)) [] rest
      | '~' :: '~' :: rest =>
          bodyIn verbose fuel (some (.symmDiff, endOperand left? items)) [] rest
      | '[' :: rest =>
          match asciiClass? rest with
          | some (item, rest) => bodyIn verbose fuel left? (item :: items) rest
          | none =>
              let (negated, first, rest) := opening verbose rest
              match bodyIn verbose fuel none first rest with
              | none => none
              | some (body, rest) =>
                  bodyIn verbose fuel left? (.bracket negated body :: items) rest
      | cs =>
          match item? verbose cs with
          | none => none
          | some (item, rest) => bodyIn verbose fuel left? (item :: items) rest

def bracket? (verbose : Bool) : Reader CharClass := fun cs =>
  let (negated, first, rest) := opening verbose cs
  (bodyIn verbose (rest.length + 1) none first rest).map fun (body, rest) =>
    (.bracket negated body, rest)

end GestureGraph.Pattern
