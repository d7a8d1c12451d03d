import GestureGraph.Pattern.Tree
import GestureGraph.Text.Blank

namespace GestureGraph.Pattern

abbrev Reader (α : Type) := List Char → Option (α × List Char)

def skipGaps : (inComment : Bool) → List Char → List Char
  | _, [] => []
  | true, c :: cs => skipGaps (c != '\n') cs
  | false, c :: cs =>
      if Text.isBlank c then skipGaps false cs
      else if c = '#' then skipGaps true cs
      else c :: cs

def skip (verbose : Bool) (cs : List Char) : List Char :=
  if verbose then skipGaps false cs else cs

theorem length_skipGaps (inComment : Bool) (cs : List Char) :
    (skipGaps inComment cs).length ≤ cs.length := by
  induction cs generalizing inComment with
  | nil => simp [skipGaps]
  | cons c cs ih =>
      cases inComment with
      | true => exact Nat.le_succ_of_le (ih _)
      | false =>
          simp only [skipGaps]
          split
          · exact Nat.le_succ_of_le (ih _)
          · split
            · exact Nat.le_succ_of_le (ih _)
            · exact Nat.le_refl _

theorem length_skip (verbose : Bool) (cs : List Char) : (skip verbose cs).length ≤ cs.length := by
  cases verbose with
  | true => exact length_skipGaps false cs
  | false => exact Nat.le_refl _

def takeRun (verbose : Bool) (p : Char → Bool) : List Char → List Char × List Char
  | [] => ([], [])
  | c :: cs =>
      if p c then
        let (run, rest) := takeRun verbose p (skip verbose cs)
        (c :: run, rest)
      else ([], c :: cs)
  termination_by cs => cs.length
  decreasing_by exact Nat.lt_succ_of_le (length_skip verbose cs)

def isDigit (c : Char) : Bool := '0' ≤ c && c ≤ '9'

def isHexDigit (c : Char) : Bool :=
  isDigit c || ('a' ≤ c && c ≤ 'f') || ('A' ≤ c && c ≤ 'F')

def countBound : Nat := 0x100000000

def count? (verbose : Bool) : Reader Nat := fun cs =>
  let (digits, rest) := takeRun verbose isDigit (cs.dropWhile Text.isBlank)
  let (_, rest) := takeRun verbose Text.isBlank rest
  let count := Text.decNat digits
  if digits ≠ [] ∧ count < countBound then some (count, rest) else none

def bounds? (verbose : Bool) : Reader (Nat × Option Nat) := fun cs =>
  match count? verbose (skip verbose cs) with
  | some (least, '\x7d' :: rest) => some ((least, some least), rest)
  | some (least, ',' :: rest) =>
      match skip verbose rest with
      | '\x7d' :: rest => some ((least, none), rest)
      | rest =>
          match count? verbose rest with
          | some (most, '\x7d' :: rest) =>
              if least ≤ most then some ((least, some most), rest) else none
          | _ => none
  | _ => none

def isScalar (n : Nat) : Bool := n < 0xD800 || (0xDFFF < n && n < 0x110000)

def literalOf? (digits : List Char) (byte : Bool) : Option Literal :=
  let code := Text.hexNat digits
  if digits ≠ [] ∧ isScalar code then some ⟨code, byte⟩ else none

def hexDigits? (verbose : Bool) : (count : Nat) → Reader (List Char)
  | 0, cs => some ([], cs)
  | _ + 1, [] => none
  | count + 1, c :: cs =>
      if isHexDigit c then
        (hexDigits? verbose count (skip verbose cs)).map fun (digits, rest) => (c :: digits, rest)
      else none

/-- A code point of `count` hexadecimal digits, or of any number of them between braces. Two digits
without braces can mean a byte. -/
def codePoint? (verbose : Bool) (count : Nat) : Reader Literal := fun cs =>
  match skip verbose cs with
  | '\x7b' :: cs =>
      match takeRun verbose isHexDigit (skip verbose cs) with
      | (digits, '\x7d' :: rest) => (literalOf? digits false).map (·, skip verbose rest)
      | _ => none
  | cs => (hexDigits? verbose count cs).bind fun (digits, rest) =>
      (literalOf? digits (count == 2)).map (·, rest)

def cutAt? (sign : List Char) : List Char → Option (List Char × List Char)
  | [] => none
  | c :: cs =>
      if sign.isPrefixOf (c :: cs) then some ([], (c :: cs).drop sign.length)
      else (cutAt? sign cs).map fun (before, after) => (c :: before, after)

def Query.ofText (cs : List Char) : Query :=
  match (cutAt? ['!', '='] cs).or ((cutAt? [':'] cs).or (cutAt? ['='] cs)) with
  | some (property, wanted) => .value (String.ofList property) (String.ofList wanted)
  | none => .name (String.ofList cs)

def query? (verbose : Bool) : Reader Query := fun cs =>
  match skip verbose cs with
  | [] => none
  | '\\' :: _ => none
  | '\x7b' :: cs =>
      match takeRun verbose (· ≠ '\x7d') (skip verbose cs) with
      | (text, '\x7d' :: rest) => some (.ofText text, rest)
      | _ => none
  | c :: cs => some (.name (String.singleton c), skip verbose cs)

def wordRule? (name : List Char) : Option WordRule :=
  if name = "start".toList then some .start
  else if name = "end".toList then some .stop
  else if name = "start-half".toList then some .startHalf
  else if name = "end-half".toList then some .stopHalf
  else none

/-- A word boundary may be followed by its kind between braces. What cannot be a kind is left to be
read as a repetition. -/
def boundary? (verbose : Bool) : Reader WordRule := fun cs =>
  let isKindChar := fun (c : Char) => (c.toNat < 0x80 && c.isAlpha) || c == '-'
  match cs with
  | '\x7b' :: inner =>
      match takeRun verbose isKindChar (skip verbose inner) with
      | ([], _) => some (.boundary, cs)
      | (name, '\x7d' :: rest) => (wordRule? name).map (·, rest)
      | _ => none
  | cs => some (.boundary, cs)

inductive Atom where
  | literal (l : Literal)
  | assertion (a : Assertion)
  | cls (c : CharClass)

def Atom.toTree : Atom → Tree
  | .literal l => .literal l
  | .assertion a => .assertion a
  | .cls c => .cls c

def Atom.classItem? : Atom → Option CharClass
  | .literal l => some (.literal l)
  | .assertion _ => none
  | .cls c => some c

def controlCode? (c : Char) : Option Nat :=
  if c = 'a' then some 7
  else if c = 't' then some 9
  else if c = 'n' then some 10
  else if c = 'v' then some 11
  else if c = 'f' then some 12
  else if c = 'r' then some 13
  else none

def namedClass? (c : Char) : Option CharClass :=
  if c = 'd' then some (.named .decimal false)
  else if c = 'D' then some (.named .decimal true)
  else if c = 's' then some (.named .blank false)
  else if c = 'S' then some (.named .blank true)
  else if c = 'w' then some (.named .word false)
  else if c = 'W' then some (.named .word true)
  else none

def assertion? (c : Char) : Option Assertion :=
  if c = 'A' then some .textStart
  else if c = 'z' then some .textStop
  else if c = 'B' then some (.word .inner)
  else if c = '<' then some (.word .start)
  else if c = '>' then some (.word .stop)
  else none

/-- Below U+0080, what is neither letter nor digit stands for itself after a backslash, unless it
asserts something. -/
def isEscapable (c : Char) : Bool :=
  c.toNat < 0x80 && !c.isAlphanum && (assertion? c).isNone

def escape? (verbose : Bool) : Reader Atom
  | [] => none
  | c :: cs =>
      if c = 'x' then (codePoint? verbose 2 cs).map fun (l, rest) => (.literal l, rest)
      else if c = 'u' then (codePoint? verbose 4 cs).map fun (l, rest) => (.literal l, rest)
      else if c = 'U' then (codePoint? verbose 8 cs).map fun (l, rest) => (.literal l, rest)
      else if c = 'p' ∨ c = 'P' then
        (query? verbose cs).map fun (query, rest) => (.cls (.property query (c == 'P')), rest)
      else if c = 'b' then
        (boundary? verbose cs).map fun (rule, rest) => (.assertion (.word rule), rest)
      else if isEscapable c then some (.literal ⟨c.toNat, false⟩, cs)
      else
        match controlCode? c, namedClass? c, assertion? c with
        | some code, _, _ => some (.literal ⟨code, false⟩, cs)
        | none, some named, _ => some (.cls named, cs)
        | none, none, some assertion => some (.assertion assertion, cs)
        | none, none, none => none

end GestureGraph.Pattern
