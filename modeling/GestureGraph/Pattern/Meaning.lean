import GestureGraph.Pattern.Property
import GestureGraph.Pattern.Regex
import GestureGraph.Text.Fold

namespace GestureGraph.Pattern

open Text (CharSet)

structure Flags where
  ignoreCase : Bool := true
  multiLine : Bool := false
  dotAll : Bool := false
  swapGreed : Bool := false
  unicode : Bool := true
  crlf : Bool := false
  deriving Repr, DecidableEq

namespace Flags

/-- How gaps are read is no matter of meaning. -/
def set (flags : Flags) (change : FlagChange) : Flags :=
  match change.flag with
  | .ignoreCase => { flags with ignoreCase := change.on }
  | .multiLine => { flags with multiLine := change.on }
  | .dotAll => { flags with dotAll := change.on }
  | .swapGreed => { flags with swapGreed := change.on }
  | .unicode => { flags with unicode := change.on }
  | .crlf => { flags with crlf := change.on }
  | .verbose => flags

def setAll (flags : Flags) (changes : List FlagChange) : Flags := changes.foldl set flags

def latinCases (set : CharSet) : CharSet :=
  let small := (CharSet.ordered set).inter [⟨0x61, 0x7A⟩]
  let capital := (CharSet.ordered set).inter [⟨0x41, 0x5A⟩]
  .unions [set, small.map fun r => ⟨r.first - 0x20, r.last - 0x20⟩,
    capital.map fun r => ⟨r.first + 0x20, r.last + 0x20⟩]

def cased (flags : Flags) (set : CharSet) : CharSet :=
  if !flags.ignoreCase then .ordered set
  else if flags.unicode then set.withCases
  else latinCases set

/-- Case comes before negation; without Unicode the rest of a class would take in single bytes. -/
def negated? (flags : Flags) (negated : Bool) (set : CharSet) : Option CharSet :=
  if !negated then some set
  else if flags.unicode then some set.compl
  else none

def named (flags : Flags) : NamedClass → CharSet
  | .decimal => if flags.unicode then Property.decimals else .ofRows ["30-39"]
  | .blank => if flags.unicode then Property.blanks else .ofRows ["9-D 20"]
  | .word => if flags.unicode then Property.wordChars else .ofRows ["30-39 41-5A 5F 61-7A"]

def code? (flags : Flags) (l : Literal) : Option Nat :=
  if !flags.unicode && l.byte && 0x80 ≤ l.code then none else some l.code

def classCode? (flags : Flags) (l : Literal) : Option Nat :=
  if !flags.unicode && 0x80 ≤ l.code then none else some l.code

def literal? (flags : Flags) (l : Literal) : Option Regex :=
  (flags.code? l).map fun code => .ofChars (flags.cased [⟨code, code⟩])

def query? (flags : Flags) : Query → Option CharSet
  | .name name => if flags.unicode then Property.named? name else none
  | .value property value => if flags.unicode then Property.valued? property value else none

def dot? (flags : Flags) : Option CharSet :=
  if !flags.unicode then none
  else if flags.dotAll then some CharSet.scalars
  else if flags.crlf then some (CharSet.compl [⟨0xA, 0xA⟩, ⟨0xD, 0xD⟩])
  else some (CharSet.compl [⟨0xA, 0xA⟩])

def look (flags : Flags) : Assertion → Look
  | .textStart => .textStart
  | .textStop => .textStop
  | .lineStart => if flags.multiLine then .lineStart flags.crlf else .textStart
  | .lineStop => if flags.multiLine then .lineStop flags.crlf else .textStop
  | .word rule => .word rule flags.unicode

end Flags

namespace CharClass

mutual

def chars? (flags : Flags) : CharClass → Option CharSet
  | .literal l => (flags.classCode? l).map fun code => [⟨code, code⟩]
  | .range first last =>
      match flags.classCode? first, flags.classCode? last with
      | some first, some last => some [⟨first, last⟩]
      | _, _ => none
  | .ascii chars negated => flags.negated? negated (flags.cased chars)
  | .named name negated => flags.negated? negated (flags.named name)
  | .property query negated =>
      (flags.query? query).bind fun set => flags.negated? negated (flags.cased set)
  | .union items => charsOf? flags items
  | .bracket negated body =>
      (body.chars? flags).bind fun set => flags.negated? negated (flags.cased set)
  | .op o left right =>
      match left.chars? flags, right.chars? flags with
      | some left, some right => some (o.apply (flags.cased left) (flags.cased right))
      | _, _ => none

def charsOf? (flags : Flags) : List CharClass → Option CharSet
  | [] => some []
  | item :: items =>
      match item.chars? flags, charsOf? flags items with
      | some set, some rest => some (set ++ rest)
      | _, _ => none

end

end CharClass

namespace Tree

mutual

def meaning? (flags : Flags) : Tree → Option (Regex × Flags)
  | .empty => some (.empty, flags)
  | .change changes => some (.empty, flags.setAll changes)
  | .literal l => (flags.literal? l).map (·, flags)
  | .dot => flags.dot?.map (.ofChars ·, flags)
  | .assertion a => some (.look (flags.look a), flags)
  | .cls c => (c.chars? flags).map fun set => (.ofChars (.ordered set), flags)
  | .times sub least most? greedy =>
      (sub.meaning? flags).map fun (r, flags) =>
        (r.repeated least most? (greedy != flags.swapGreed), flags)
  | .group capturing changes sub =>
      (sub.meaning? (flags.setAll changes)).map fun (r, _) =>
        (if capturing then .capture r else r, flags)
  | .branches trees =>
      (meanings? flags trees).map fun (rs, flags) => (.alternatives rs, flags)
  | .parts trees => (meanings? flags trees).map fun (rs, flags) => (.sequence rs, flags)

def meanings? (flags : Flags) : List Tree → Option (List Regex × Flags)
  | [] => some ([], flags)
  | tree :: trees =>
      match tree.meaning? flags with
      | none => none
      | some (r, flags) =>
          match meanings? flags trees with
          | none => none
          | some (rs, flags) => some (r :: rs, flags)

end

end Tree

end GestureGraph.Pattern
