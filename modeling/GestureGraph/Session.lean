import GestureGraph.Cycle
import GestureGraph.Failure

namespace GestureGraph

structure Entry where
  input : String
  result : String
  coherence : Float
  intentions : List String
  deriving Repr, DecidableEq

structure Session where
  machine : Machine
  buffer : List String := []
  history : List Entry := []
  exportDir : String

def opensMore (text : String) : Bool :=
  text.toList.count ')' < text.toList.count '('

def isBlankLine (line : String) : Bool := (Text.trim line.toList).isEmpty

/-- Whether a line leaves an expression open after the lines before it. With none before it, only a
line that starts with a parenthesis can. -/
def isIncomplete (buffer : List String) (line : String) : Bool :=
  if isBlankLine line then false
  else if buffer.isEmpty then
    (Text.trimStart line.toList).head? = some '(' && opensMore line
  else opensMore ("\n".intercalate (buffer ++ [line]))

/-- A name within a directory; a name that starts at the root stands alone. -/
def joinPath (directory name : String) : String :=
  if name.toList.head? = some '/' then name
  else if directory.isEmpty || directory.toList.getLast? = some '/' then directory ++ name
  else directory ++ "/" ++ name

namespace Session

def isBuffering (s : Session) : Bool := !s.buffer.isEmpty

def pushLine (s : Session) (line : String) : Option String × Session :=
  let line := String.ofList (Text.trimEnd line.toList)
  if isIncomplete s.buffer line then (none, { s with buffer := s.buffer ++ [line] })
  else if s.isBuffering then
    (some ("\n".intercalate (s.buffer ++ [line])), { s with buffer := [] })
  else if isBlankLine line then (none, s)
  else (some line, s)

def evaluateEach (intentions : List String) : List Value → Step .plain (List Value)
  | [] => pure []
  | expr :: rest => do
      let v ← Machine.evaluate intentions expr
      let vs ← evaluateEach intentions rest
      return v :: vs

/-- Evaluates one input and keeps it, unless it holds no expressions. The first expression that
fails ends it. -/
def process (source : String) : EStateM Failure Session (Option Entry) := fun s =>
  match Program.read s.machine.context.axioms "<repl>" source with
  | .error e => .error (.ofReadError e) s
  | .ok program =>
      if program.expressions.isEmpty then .ok none s
      else
        match evaluateEach program.intentions program.expressions s.machine with
        | .error e m => .error (.eval e) { s with machine := m }
        | .ok results m =>
            let entry : Entry :=
              ⟨source, (Value.oneOrMany results).display, m.context.measure, program.intentions⟩
            .ok (some entry)
              { s with
                machine := { m with context := m.context.sampled }
                history := s.history ++ [entry] }

def clear : EStateM Failure Session Unit := fun s =>
  let c := s.machine.context
  match Context.create c.name c.axioms c.now with
  | .ok fresh => .ok () { s with machine := { context := fresh } }
  | .error e => .error (.limit e) s

def cycle (s : Session) (operator : String) : Cycle × Session :=
  let c := s.machine.context
  let cycle : Cycle := {
    id := s!"repl_{c.now}"
    timestamp := c.now
    evaluated := s.history.length
    successful := s.history.length
    results := s.history.map fun e => .str e.result
    coherence := c.measure
    dialogues := c.dialogues.length
    recentScores := c.recentScores
    operator? := some operator
    fairCare := c.fairCare }
  (cycle, { s with machine := { s.machine with context := c.sampled } })

def draft (s : Session) (operator : String) : Option (String × String) × Session :=
  if s.history.isEmpty then (none, s)
  else
    let (cycle, s) := s.cycle operator
    let (text, c) := cycle.document s.machine.context
    let path := joinPath s.exportDir (operator ++ "_" ++ cycle.id ++ ".json")
    (some (path, text), { s with machine := { s.machine with context := c } })

end Session

end GestureGraph
