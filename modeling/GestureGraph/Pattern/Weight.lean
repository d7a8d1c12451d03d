import GestureGraph.Pattern.Regex

/-!
The weight of an expression: the room that an automaton over bytes takes for it. Patterns that
weigh too much are refused.
-/

namespace GestureGraph.Pattern

namespace Weight

def state : Nat := 32
def edge : Nat := 4
def span : Nat := 8

abbrev Bytes := Nat × Nat

/-- The digits to base 64, besides the first, that stand for `n` more bytes. -/
def block : Nat → Nat
  | 0 => 1
  | n + 1 => 64 * block n

/-- The characters from `first` to `last`, encoded with `more` bytes after the first one, as
sequences of runs. -/
def sequences : (more first last : Nat) → List (List Bytes)
  | 0, first, last => [[(first, last)]]
  | more + 1, first, last =>
      let size := block (more + 1)
      let low := first / size
      let high := last / size
      let under := fun head a b => (sequences more a b).map ((head, head) :: ·)
      if low = high then under low (first % size) (last % size)
      else
        let fromStart := first % size = 0
        let toEnd := last % size = size - 1
        let start := if fromStart then low else low + 1
        let stop := if toEnd then high + 1 else high
        (if fromStart then [] else under low (first % size) (size - 1)) ++
        (if start < stop then [(start, stop - 1) :: List.replicate (more + 1) (0, 63)] else []) ++
        (if toEnd then [] else under high 0 (last % size))

def lengths : List (Nat × Text.CharSet) :=
  [(0, [⟨0, 0x7F⟩]), (1, [⟨0x80, 0x7FF⟩]), (2, [⟨0x800, 0xD7FF⟩, ⟨0xE000, 0xFFFF⟩]),
    (3, [⟨0x10000, 0x10FFFF⟩])]

def sequencesOf (set : Text.CharSet) : List (List (List Bytes)) :=
  lengths.map fun (more, codes) =>
    (Text.CharSet.inter set codes).flatMap fun r => sequences more r.first r.last

def commonBytes : List Bytes → List Bytes → Nat
  | a :: as, b :: bs => if a = b then commonBytes as bs + 1 else 0
  | _, _ => 0

/-- The runs of sequences that follow each other, those that begin alike sharing them. -/
def runsFrom (last : List Bytes) : List (List Bytes) → Nat
  | [] => 0
  | s :: rest => s.length - commonBytes last s + runsFrom s rest

/-- A set below U+0080 takes one state with all its ranges; any other takes a state for every
run. -/
def chars (set : Text.CharSet) : Nat :=
  if set.all (·.last < 0x80) then 2 * state + span * set.length
  else
    (sequencesOf set).foldl (fun weight ss => weight + state * runsFrom [] ss + edge * ss.length)
      (2 * state)

def encodedLength (code : Nat) : Nat :=
  if code < 0x80 then 1 else if code < 0x800 then 2 else if code < 0x10000 then 3 else 4

def fork : Nat := state + 2 * edge

/-- A bounded repetition takes its expression once for every time; every time that may be left out
adds a fork. -/
def times (sub : Nat) (canBeEmpty : Bool) (least : Nat) : Option Nat → Nat
  | none =>
      if least = 0 then if canBeEmpty then sub + 2 * fork + state else sub + fork
      else least * sub + fork
  | some most =>
      if least = most then least * sub
      else
        let before := if least = 0 then state else least * sub
        before + state + (most - least) * (sub + fork)

end Weight

namespace Regex

mutual

def weight : Regex → Nat
  | .empty => Weight.state
  | .literal codes => codes.foldl (fun n code => n + Weight.state * Weight.encodedLength code) 0
  | .chars set => Weight.chars set
  | .look _ => Weight.state
  | .times sub least most? _ =>
      if least = 0 ∧ most? = some 1 then sub.weight + Weight.fork + Weight.state
      else Weight.times sub.weight (sub.minLength?.getD 0 == 0) least most?
  | .capture sub => sub.weight + 2 * Weight.state
  | .seq parts => weightOf parts
  | .alt branches =>
      weightOf branches + Weight.edge * branches.length + 2 * Weight.state

def weightOf : List Regex → Nat
  | [] => 0
  | r :: rs => r.weight + weightOf rs

end

def totalWeight (r : Regex) : Nat := r.weight + 6 * Weight.state + 2 * Weight.edge + Weight.span

end Regex

def weightBound : Nat := 0xA00000

end GestureGraph.Pattern
