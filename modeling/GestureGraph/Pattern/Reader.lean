import GestureGraph.Pattern.Reader.Bracket
import GestureGraph.Text.Letter

namespace GestureGraph.Pattern

def flag? (c : Char) : Option Flag :=
  if c = 'i' then some .ignoreCase
  else if c = 'm' then some .multiLine
  else if c = 's' then some .dotAll
  else if c = 'U' then some .swapGreed
  else if c = 'u' then some .unicode
  else if c = 'R' then some .crlf
  else if c = 'x' then some .verbose
  else none

/-- The changes up to a colon or a closing parenthesis, which is left. Flags after a hyphen are
switched off; one must follow it, and no flag is named twice. -/
def changes? (on dangling : Bool) (done : List FlagChange) : Reader (List FlagChange)
  | [] => none
  | c :: cs =>
      if c = ':' ∨ c = ')' then if dangling then none else some (done.reverse, c :: cs)
      else if c = '-' then if on then changes? false true done cs else none
      else
        match flag? c with
        | none => none
        | some flag =>
            if done.any (·.flag == flag) then none
            else changes? on false (⟨flag, on⟩ :: done) cs

def verboseAfter (changes : List FlagChange) (verbose : Bool) : Bool :=
  ((changes.find? (·.flag == .verbose)).map (·.on)).getD verbose

def isNameStart (c : Char) : Bool := c == '_' || Text.isLetter c

def isNameChar (c : Char) : Bool :=
  ['_', '.', '[', ']'].contains c || Text.isLetter c || Text.isNumeral c

def groupName? : Reader String := fun cs =>
  match cs.takeWhile (· ≠ '>'), cs.dropWhile (· ≠ '>') with
  | first :: name, '>' :: rest =>
      if isNameStart first ∧ name.all isNameChar then some (String.ofList (first :: name), rest)
      else none
  | _, _ => none

inductive Opening where
  | change (changes : List FlagChange)
  | group (capturing : Bool) (changes : List FlagChange)
  | named (name : String)

def groupOpening? (verbose : Bool) : Reader Opening := fun cs =>
  match skip verbose cs with
  | '?' :: '=' :: _ => none
  | '?' :: '!' :: _ => none
  | '?' :: '<' :: '=' :: _ => none
  | '?' :: '<' :: '!' :: _ => none
  | '?' :: 'P' :: '<' :: cs => (groupName? cs).map fun (name, rest) => (.named name, rest)
  | '?' :: '<' :: cs => (groupName? cs).map fun (name, rest) => (.named name, rest)
  | '?' :: cs =>
      match changes? true false [] cs with
      | some (changes, ':' :: rest) => some (.group false changes, rest)
      | some ([], ')' :: _) => none
      | some (changes, ')' :: rest) => some (.change changes, rest)
      | _ => none
  | cs => some (.group true [], cs)

/-- The branches of a group before the last bar and the parts after it, newest first. -/
structure Level where
  branches : List Tree := []
  parts : List Tree := []

namespace Level

def push (level : Level) (tree : Tree) : Level := { level with parts := tree :: level.parts }

def branch (level : Level) : Tree := .ofParts level.parts.reverse

def bar (level : Level) : Level := ⟨level.branch :: level.branches, []⟩

def close (level : Level) : Tree :=
  match level.branches with
  | [] => level.branch
  | branches => .branches (level.branch :: branches).reverse

/-- Repeats the last part; there has to be one, and a change of flags is none. -/
def repeatLast? (level : Level) (least : Nat) (most? : Option Nat) (greedy : Bool) :
    Option Level :=
  match level.parts with
  | [] => none
  | .change _ :: _ => none
  | part :: parts => some { level with parts := .times part least most? greedy :: parts }

end Level

structure Frame where
  capturing : Bool
  changes : List FlagChange
  outer : Level
  verbose : Bool

structure Position where
  verbose : Bool := false
  names : List String := []
  level : Level := {}
  frames : List Frame := []

namespace Position

def push (p : Position) (tree : Tree) : Position := { p with level := p.level.push tree }

def enter (p : Position) (capturing : Bool) (changes : List FlagChange) : Position :=
  { p with
    verbose := verboseAfter changes p.verbose
    level := {}
    frames := ⟨capturing, changes, p.level, p.verbose⟩ :: p.frames }

def begin? (p : Position) : Opening → Option Position
  | .change changes =>
      some { p.push (.change changes) with verbose := verboseAfter changes p.verbose }
  | .group capturing changes => some (p.enter capturing changes)
  | .named name =>
      if p.names.contains name then none
      else some ({ p with names := name :: p.names }.enter true [])

def leave? (p : Position) : Option Position :=
  match p.frames with
  | [] => none
  | frame :: frames =>
      some { p with
        verbose := frame.verbose
        level := frame.outer.push (.group frame.capturing frame.changes p.level.close)
        frames }

def repeat? (p : Position) (least : Nat) (most? : Option Nat) (greedy : Bool) :
    Option Position :=
  (p.level.repeatLast? least most? greedy).map fun level => { p with level }

end Position

def greed : List Char → Bool × List Char
  | '?' :: cs => (false, cs)
  | cs => (true, cs)

def step? (p : Position) : Reader Position
  | [] => none
  | '(' :: cs => (groupOpening? p.verbose cs).bind fun (opening, rest) =>
      (p.begin? opening).map (·, rest)
  | ')' :: cs => p.leave?.map (·, cs)
  | '|' :: cs => some ({ p with level := p.level.bar }, cs)
  | '[' :: cs => (bracket? p.verbose cs).map fun (c, rest) => (p.push (.cls c), rest)
  | '?' :: cs => let (greedy, rest) := greed cs; (p.repeat? 0 (some 1) greedy).map (·, rest)
  | '*' :: cs => let (greedy, rest) := greed cs; (p.repeat? 0 none greedy).map (·, rest)
  | '+' :: cs => let (greedy, rest) := greed cs; (p.repeat? 1 none greedy).map (·, rest)
  | '\x7b' :: cs => (bounds? p.verbose cs).bind fun ((least, most?), rest) =>
      let (greedy, rest) := greed (skip p.verbose rest)
      (p.repeat? least most? greedy).map (·, rest)
  | '\\' :: cs => (escape? p.verbose cs).map fun (atom, rest) => (p.push atom.toTree, rest)
  | '.' :: cs => some (p.push .dot, cs)
  | '^' :: cs => some (p.push (.assertion .lineStart), cs)
  | '$' :: cs => some (p.push (.assertion .lineStop), cs)
  | c :: cs => some (p.push (.literal ⟨c.toNat, false⟩), cs)

/-- Every step takes at least one character, so the length of the text is fuel enough. -/
def treeIn : (fuel : Nat) → Position → List Char → Option Tree
  | 0, _, _ => none
  | fuel + 1, p, cs =>
      match skip p.verbose cs with
      | [] => if p.frames.isEmpty then some p.level.close else none
      | cs =>
          match step? p cs with
          | none => none
          | some (p, rest) => treeIn fuel p rest

def nestingBound : Nat := 250

def Tree.read? (text : String) : Option Tree :=
  let cs := text.toList
  (treeIn (cs.length + 1) {} cs).filter (·.depth ≤ nestingBound)

end GestureGraph.Pattern
