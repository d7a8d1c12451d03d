import GestureGraph.Pattern.Property
import GestureGraph.Pattern.Regex

/-!
Automata for expressions. A state either waits for a character or leads on at once; of two ways on
the first is preferred. A search keeps the states that can still lead to a match, the preferred
ones first and each once: who comes to a state first stays, and so a loop that has matched nothing
is not entered again.
-/

namespace GestureGraph.Pattern

inductive State where
  | accept
  | chars (set : Text.CharSet) (next : Nat)
  | look (look : Look) (next : Nat)
  | fork (first second : Nat)

/-- States by their numbers. A number without a state leads nowhere. -/
structure Automaton where
  states : Array State := #[]
  start : Nat := 0

namespace Regex

abbrev Building := StateM (Array State)

namespace Building

def add (state : State) : Building Nat := fun states => (states.size, states.push state)

def forkTo (greedy : Bool) (more on : Nat) : State :=
  if greedy then .fork more on else .fork on more

def repeated (build : Nat → Building Nat) (next : Nat) : Nat → Building Nat
  | 0 => pure next
  | n + 1 => do repeated build (← build next) n

/-- Up to as many times as the last number says, each further time only after the one before. -/
def upTo (build : Nat → Building Nat) (greedy : Bool) (exit next : Nat) : Nat → Building Nat
  | 0 => pure next
  | n + 1 => do
      let again ← build next
      let entry ← add (forkTo greedy again exit)
      upTo build greedy exit entry n

/-- Once or more often: the numbers of the first state and of the fork after the expression. The
fork is put in place when the state to come back to is known. -/
def loop (build : Nat → Building Nat) (greedy : Bool) (exit : Nat) : Building (Nat × Nat) := do
  let fork ← add (.fork exit exit)
  let first ← build fork
  modify (·.set! fork (forkTo greedy first exit))
  return (first, fork)

/-- A loop that can also be left out. Where the expression cannot be empty, the fork after it
serves as the fork before it. -/
def star (build : Nat → Building Nat) (greedy canBeEmpty : Bool) (exit : Nat) : Building Nat := do
  let (first, fork) ← loop build greedy exit
  if canBeEmpty then add (forkTo greedy first exit) else return fork

def literal (next : Nat) : List Nat → Building Nat
  | [] => pure next
  | code :: codes => do add (.chars [⟨code, code⟩] (← literal next codes))

end Building

mutual

/-- Adds the states of an expression that goes on with a given state, and gives the number of the
state from which they run. -/
def build : Regex → (next : Nat) → Building Nat
  | .empty, next => pure next
  | .literal codes, next => Building.literal next codes
  | .chars set, next => Building.add (.chars set next)
  | .look l, next => Building.add (.look l next)
  | .times sub least most? greedy, next =>
      match most? with
      | some most => do
          let rest ← Building.upTo (sub.build ·) greedy next next (most - least)
          Building.repeated (sub.build ·) rest least
      | none =>
          if least = 0 then
            Building.star (sub.build ·) greedy (sub.minLength?.getD 0 == 0) next
          else do
            let (first, _) ← Building.loop (sub.build ·) greedy next
            Building.repeated (sub.build ·) first (least - 1)
  | .capture sub, next => sub.build next
  | .seq parts, next => buildSeq parts next
  | .alt branches, next => buildAlt branches next

def buildSeq : List Regex → (next : Nat) → Building Nat
  | [], next => pure next
  | part :: parts, next => do part.build (← buildSeq parts next)

def buildAlt : List Regex → (exit : Nat) → Building Nat
  | [], exit => Building.add (.chars [] exit)
  | [branch], exit => branch.build exit
  | branch :: branches, exit => do
      let others ← buildAlt branches exit
      let first ← branch.build exit
      Building.add (.fork first others)

end

def toAutomaton (r : Regex) : Automaton :=
  let (start, states) := (r.build 0).run #[.accept]
  ⟨states, start⟩

end Regex

structure Place where
  index : Nat
  before? : Option Char
  after? : Option Char

def isAsciiWord (c : Char) : Bool := c.toNat < 0x80 && (c.isAlphanum || c == '_')

def Look.holds (place : Place) : Look → Bool
  | .textStart => place.before?.isNone
  | .textStop => place.after?.isNone
  | .lineStart crlf =>
      match place.before? with
      | none => true
      | some c => c == '\n' || (crlf && c == '\r' && place.after? != some '\n')
  | .lineStop crlf =>
      match place.after? with
      | none => true
      | some c =>
          if crlf then c == '\r' || (c == '\n' && place.before? != some '\r') else c == '\n'
  | .word rule unicode =>
      let isWord := fun (c? : Option Char) =>
        (c?.map (if unicode then Property.isWordChar else isAsciiWord)).getD false
      rule.holds (isWord place.before?) (isWord place.after?)

namespace Automaton

structure Thread where
  set : Text.CharSet
  next : Nat
  start : Nat

/-- The states at one place. A state is marked with the place at which it was met last, counted
from one. -/
structure Front where
  marks : Array Nat
  threads : Array Thread := #[]
  found? : Option Nat := none

def Front.isMet (front : Front) (place : Place) (state : Nat) : Bool :=
  (front.marks[state]?).getD 0 == place.index + 1

def Front.meet (front : Front) (place : Place) (state : Nat) : Front :=
  { front with marks := front.marks.set! state (place.index + 1) }

/-- Meets states in order, the preferred ones first. A match ends the walk: what would come after
it is not preferred to it. -/
def walk (m : Automaton) (place : Place) (start : Nat) : (fuel : Nat) → List Nat → Front → Front
  | 0, _, front => front
  | _, [], front => front
  | fuel + 1, state :: states, front =>
      if front.isMet place state then walk m place start fuel states front
      else
        match m.states[state]? with
        | none => walk m place start fuel states front
        | some .accept => { front.meet place state with found? := some start }
        | some (.chars set next) =>
            let front := front.meet place state
            walk m place start fuel states
              { front with threads := front.threads.push ⟨set, next, start⟩ }
        | some (.look l next) =>
            if l.holds place then
              walk m place start fuel (next :: states) (front.meet place state)
            else walk m place start fuel states (front.meet place state)
        | some (.fork first second) =>
            walk m place start fuel (first :: second :: states) (front.meet place state)

/-- Every state is met once and brings at most two more, so this is fuel enough. -/
def enter (m : Automaton) (place : Place) (start state : Nat) (front : Front) : Front :=
  walk m place start (2 * m.states.size + 2) [state] front

def advance (m : Automaton) (place : Place) (c : Char) : List Thread → Front → Front
  | [], front => front
  | thread :: threads, front =>
      if !thread.set.contains c then advance m place c threads front
      else
        let front := m.enter place thread.start thread.next front
        if front.found?.isSome then front else advance m place c threads front

/-- The states at a place: those that threads reach over the character before it, and, while
there is no match, those of a match that begins here. -/
def frontAt (m : Automaton) (place : Place) (threads : List Thread) (marks : Array Nat)
    (matched : Bool) : Front :=
  let front :=
    match place.before? with
    | none => { marks }
    | some c => m.advance place c threads { marks }
  if front.found?.isSome || matched then front else m.enter place place.index m.start front

def runFrom (m : Automaton) (index : Nat) (before? : Option Char) (threads : List Thread)
    (marks : Array Nat) (best? : Option (Nat × Nat)) (cs : List Char) : Option (Nat × Nat) :=
  let front := m.frontAt ⟨index, before?, cs.head?⟩ threads marks best?.isSome
  let best? := (front.found?.map (·, index)).or best?
  match cs with
  | [] => best?
  | c :: cs =>
      if best?.isSome ∧ front.threads.isEmpty then best?
      else runFrom m (index + 1) (some c) front.threads.toList front.marks best? cs

def find? (m : Automaton) (text : List Char) : Option (Nat × Nat) :=
  m.runFrom 0 none [] (Array.replicate m.states.size 0) none text

end Automaton

end GestureGraph.Pattern
