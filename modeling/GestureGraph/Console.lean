import GestureGraph.Host
import GestureGraph.Session

namespace GestureGraph

inductive Command where
  | exit
  | context
  | history
  | clear
  | analyze
  | saveCycle (operator : String)
  deriving Repr, DecidableEq

def defaultOperator : String := "repl_operator"

def exitOperator : String := "repl_exit"

def Command.parse? (line : String) : Option Command :=
  match (Text.words line.toList).map String.ofList with
  | ["exit"] => some .exit
  | ["context"] => some .context
  | ["history"] => some .history
  | ["clear"] => some .clear
  | ["analyze"] => some .analyze
  | ["save_cycle"] => some (.saveCycle defaultOperator)
  | ["save_cycle", operator] => some (.saveCycle operator)
  | _ => none

def padded (width n : Nat) : String :=
  let digits := toString n
  String.ofList (List.replicate (width - digits.length) ' ') ++ digits

def percent (x : Float) : String := Decimal.places 2 (x * 100.0) ++ "%"

inductive Mode where
  | reading
  | confirming
  | naming
  | done
  deriving Repr, DecidableEq

structure Console where
  session : Session
  mode : Mode := .reading

namespace Console

def greeting : String :=
  "LOGOS-κ console. Commands: exit, context, history, clear, analyze, save_cycle\n" ++
    "Multi-line input: open a '(' and keep typing until it closes.\n"

def farewell : String := "Until the next cycle.\n"

def prompt (s : Session) : String := if s.isBuffering then "...> " else "λκ> "

def excerpt (input : String) : String :=
  String.ofList ((input.toList.map fun c => if c = '\n' then ' ' else c).take 60)

def entryLines (n : Nat) (e : Entry) : String :=
  padded 2 n ++ ". " ++ excerpt e.input ++ "\n" ++
  "    ⇒ " ++ e.result ++ " (coherence " ++ percent e.coherence ++ ")\n"

def listing : Nat → List Entry → String
  | _, [] => ""
  | n, e :: es => entryLines n e ++ listing (n + 1) es

def isSignificant (e : Entry) : Bool := e.coherence < 0.5 || !e.intentions.isEmpty

def analysis (s : Session) : String :=
  let c := s.machine.context
  s!"expressions: {s.history.length}\n" ++
  s!"significant: {(s.history.filter isSignificant).length}\n" ++
  s!"tensions: {c.tensions.length}\n" ++
  "coherence: " ++ percent c.measure ++ "\n"

def outcome (e : Entry) : String :=
  "⇒ " ++ e.result ++ "\n" ++
  (if e.intentions.isEmpty then ""
    else "  intention: " ++ " | ".intercalate e.intentions ++ "\n") ++
  "  coherence: " ++ percent e.coherence ++ "\n"

def setContext (s : Session) (c : Context) : Session :=
  { s with machine := { s.machine with context := c } }

variable {m : Type → Type} [Monad m] [Host m]

def save (s : Session) (operator empty : String) : m Session := do
  match s.draft operator with
  | (none, s) =>
      Host.say empty
      return s
  | (some (path, text), s) =>
      if ← Host.writeFile path text then Host.say ("Cycle saved: " ++ path ++ "\n")
      else Host.say ((Failure.unwritten path).report ++ "\n")
      return s

def command (s : Session) : Command → m Session
  | .exit => return s
  | .context => do
      let (summary, c) := s.machine.context.summary
      Host.say (summary.text ++ "\n")
      return setContext s c
  | .history => do
      Host.say (listing 1 (lastOf 15 s.history))
      return s
  | .clear => do
      match Session.clear s with
      | .ok () s => Host.say "Context reset.\n"; return s
      | .error e s => Host.say (e.report ++ "\n"); return s
  | .analyze => do
      Host.say (analysis s)
      return setContext s s.machine.context.sampled
  | .saveCycle operator => save s operator "Nothing to save yet.\n"

def input (s : Session) (source : String) : m Session := do
  match Session.process source s with
  | .ok (some entry) s => Host.say (outcome entry); return s
  | .ok none s => Host.say "Empty expression, nothing evaluated.\n"; return s
  | .error e s => Host.say (e.report ++ "\n"); return s

def ready (s : Session) : m Console := do
  Host.say (prompt s)
  return { session := s }

def finish (s : Session) : m Console := do
  Host.say farewell
  return { session := s, mode := .done }

def readLine (s : Session) (line : String) : m Console := do
  let command? := if s.isBuffering then none else Command.parse? line
  match command? with
  | some .exit =>
      if s.history.isEmpty then finish s
      else
        Host.say "Save this session? (y/N): "
        return { session := s, mode := .confirming }
  | some cmd => ready (← command s cmd)
  | none =>
      match s.pushLine line with
      | (none, s) => ready s
      | (some source, s) => ready (← input s source)

/-- Only the letters A to Z have lower-case forms that spell a yes. -/
def isYes (line : String) : Bool :=
  let word := String.ofList ((Text.trim line.toList).map Char.toLower)
  word == "y" || word == "yes"

def line (c : Console) (text : String) : m Console :=
  match c.mode with
  | .reading => readLine c.session text
  | .confirming =>
      if isYes text then do
        Host.say ("Operator id (default '" ++ exitOperator ++ "'): ")
        return { c with mode := .naming }
      else finish c.session
  | .naming => do
      let name := String.ofList (Text.trim text.toList)
      finish (← save c.session (if name.isEmpty then exitOperator else name) "")
  | .done => return c

/-- The end of the input answers an open question with nothing. -/
def close (c : Console) : m Console :=
  match c.mode with
  | .reading => return c
  | _ => c.line ""

def start (s : Session) : m Console := do
  Host.say greeting
  ready s

def run (c : Console) : List (Option String) → m (Console × Bool)
  | [] => do
      let c ← c.close
      return (c, true)
  | text? :: rest =>
      if c.mode = .done then return (c, true)
      else
        match text? with
        | none => return (c, false)
        | some text => do
            let c ← c.line text
            run c rest

end Console

def byteLines (bytes : List UInt8) : List (Option String) :=
  let text? := fun (line : List UInt8) => String.fromUTF8? ⟨line.toArray⟩
  let cut := bytes.foldr
    (fun b (line, rest) => if b = 10 then ([], line :: rest) else (b :: line, rest))
    (([], []) : List UInt8 × List (List UInt8))
  let lines := cut.1 :: cut.2
  let withoutReturn := fun (line : List UInt8) =>
    if line.getLast? = some 13 then line.dropLast else line
  let ended := lines.dropLast.map fun line => text? (withoutReturn line)
  match lines.getLast? with
  | some [] => ended
  | some last => ended ++ [text? last]
  | none => ended

end GestureGraph
