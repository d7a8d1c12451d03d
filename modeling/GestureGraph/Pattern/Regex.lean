import GestureGraph.Pattern.Tree

namespace GestureGraph.Pattern

inductive Look where
  | textStart
  | textStop
  /-- With `crlf`, a carriage return ends a line too, and one before a line feed is part of it. -/
  | lineStart (crlf : Bool)
  | lineStop (crlf : Bool)
  /-- Without `unicode`, only characters below U+0080 count as word characters. -/
  | word (rule : WordRule) (unicode : Bool)
  deriving Repr, DecidableEq

inductive Regex where
  | empty
  | literal (codes : List Nat)
  | chars (set : Text.CharSet)
  | look (look : Look)
  | times (sub : Regex) (least : Nat) (most? : Option Nat) (greedy : Bool)
  | capture (sub : Regex)
  | seq (parts : List Regex)
  | alt (branches : List Regex)
  deriving Repr

namespace Regex

mutual

/-- The least number of characters of a match. A set without characters has no match, and neither
has what contains it. -/
def minLength? : Regex → Option Nat
  | .empty => some 0
  | .literal codes => some codes.length
  | .chars set => if set.isEmpty then none else some 1
  | .look _ => some 0
  | .times sub least _ _ => sub.minLength?.map (· * least)
  | .capture sub => sub.minLength?
  | .seq parts => minLengthSeq? parts
  | .alt branches => minLengthAlt? branches

def minLengthSeq? : List Regex → Option Nat
  | [] => some 0
  | part :: parts =>
      match part.minLength?, minLengthSeq? parts with
      | some m, some n => some (m + n)
      | _, _ => none

def minLengthAlt? : List Regex → Option Nat
  | [] => none
  | [branch] => branch.minLength?
  | branch :: branches =>
      match branch.minLength?, minLengthAlt? branches with
      | some m, some n => some (min m n)
      | _, _ => none

end

mutual

def isOnlyEmpty : Regex → Bool
  | .empty => true
  | .look _ => true
  | .times sub _ most? _ => sub.isOnlyEmpty && most?.isSome
  | .capture sub => sub.isOnlyEmpty
  | .seq parts => areOnlyEmpty parts
  | .alt branches => areOnlyEmpty branches
  | _ => false

def areOnlyEmpty : List Regex → Bool
  | [] => true
  | r :: rs => r.isOnlyEmpty && areOnlyEmpty rs

end

mutual

/-- Equality, but for captures: each of them is itself alone. -/
def same : Regex → Regex → Bool
  | .empty, .empty => true
  | .literal codes, .literal codes' => codes == codes'
  | .chars set, .chars set' => set == set'
  | .look l, .look l' => l == l'
  | .times sub least most? greedy, .times sub' least' most?' greedy' =>
      sub.same sub' && least == least' && most? == most?' && greedy == greedy'
  | .seq parts, .seq parts' => sameAll parts parts'
  | .alt branches, .alt branches' => sameAll branches branches'
  | _, _ => false

def sameAll : List Regex → List Regex → Bool
  | [], [] => true
  | r :: rs, r' :: rs' => r.same r' && sameAll rs rs'
  | _, _ => false

end

def ofChars (set : Text.CharSet) : Regex :=
  match set with
  | [r] => if r.first = r.last then .literal [r.first] else .chars set
  | set => .chars set

def repeated (sub : Regex) (least : Nat) (most? : Option Nat) (greedy : Bool) : Regex :=
  let (least, most?) :=
    if sub.isOnlyEmpty then (min least 1, some (min (most?.getD 1) 1)) else (least, most?)
  if most? = some 0 then .empty
  else if least = 1 ∧ most? = some 1 then sub
  else .times sub least most? greedy

def toParts : Regex → List Regex
  | .empty => []
  | .seq parts => parts
  | r => [r]

def joinLiterals : List Regex → List Regex
  | [] => []
  | .literal codes :: rest =>
      match joinLiterals rest with
      | .literal more :: rest => .literal (codes ++ more) :: rest
      | rest => .literal codes :: rest
  | r :: rest => r :: joinLiterals rest

def sequence (rs : List Regex) : Regex :=
  match joinLiterals (rs.flatMap toParts) with
  | [] => .empty
  | [r] => r
  | parts => .seq parts

def toBranches : Regex → List Regex
  | .alt branches => branches
  | r => [r]

def charSet? : Regex → Option Text.CharSet
  | .chars set => some set
  | .literal [code] => some [⟨code, code⟩]
  | _ => none

def choice (rs : List Regex) : Regex :=
  match rs.flatMap toBranches with
  | [] => .chars []
  | [r] => r
  | branches =>
      match branches.mapM charSet? with
      | some sets => ofChars (.unions sets)
      | none => .alt branches

def commonLength : List Regex → List Regex → Nat
  | r :: rs, r' :: rs' => if r.same r' then commonLength rs rs' + 1 else 0
  | _, _ => 0

def parts? : Regex → Option (List Regex)
  | .seq parts => some parts
  | _ => none

def lift? (branches : List Regex) : Option (List Regex × List (List Regex)) :=
  match branches.mapM parts? with
  | some (first :: others) =>
      let common := others.foldl (fun n parts => commonLength (first.take n) parts) first.length
      if common = 0 then none
      else some (first.take common, (first :: others).map (·.drop common))
  | _ => none

def alternatives (rs : List Regex) : Regex :=
  match choice rs with
  | .alt branches =>
      match lift? branches with
      | some (head, tails) => sequence (head ++ [choice (tails.map sequence)])
      | none => .alt branches
  | r => r

end Regex

end GestureGraph.Pattern
