import GestureGraph.Console

namespace GestureGraph

inductive Job where
  | run (file : String) (options : CycleOptions) (exportPath? : Option String)
  | check (file : String)
  | repl (exportDir : String)

structure Invocation where
  axiomsPath? : Option String
  contextName : String
  job : Job

namespace CommandLine

structure Arguments where
  values : List (String × String) := []
  flags : List String := []
  words : List String := []

structure Options where
  valued : List String
  flags : List String := []

def globals : List String := ["axioms", "context"]

/-- Values of these options are paths, which are never empty. -/
def pathOptions : List String := ["axioms", "export", "export-dir"]

def Arguments.addValue? (a : Arguments) (name value : String) : Option Arguments :=
  if (a.values.lookup name).isSome || (pathOptions.contains name && value.isEmpty) then none
  else some { a with values := a.values ++ [(name, value)] }

def Arguments.addFlag? (a : Arguments) (name : String) : Option Arguments :=
  if a.flags.contains name then none else some { a with flags := name :: a.flags }

/-- A word that starts with a hyphen is no value, but for the hyphen alone. -/
def isDashed (arg : String) : Bool := arg.toList.head? = some '-' && arg != "-"

def longOption? (arg : String) : Option (String × Option String) :=
  match arg.toList with
  | '-' :: '-' :: body =>
      let name := String.ofList (body.takeWhile (· ≠ '='))
      match body.dropWhile (· ≠ '=') with
      | [] => some (name, none)
      | _ :: value => some (name, some (String.ofList value))
  | _ => none

/-- Reads arguments; with `stopAtWord` only up to the first plain word, the rest being left. -/
def readArguments? (options : Options) (stopAtWord : Bool) (a : Arguments) :
    List String → Option (Arguments × List String)
  | [] => some (a, [])
  | "--" :: rest => if stopAtWord then none else some ({ a with words := a.words ++ rest }, [])
  | [arg] =>
      match longOption? arg with
      | some (name, some value) =>
          if options.valued.contains name then (a.addValue? name value).map (·, []) else none
      | some (name, none) =>
          if options.flags.contains name then (a.addFlag? name).map (·, []) else none
      | none =>
          if isDashed arg then none
          else if stopAtWord then some (a, [arg])
          else some ({ a with words := a.words ++ [arg] }, [])
  | arg :: next :: rest =>
      match longOption? arg with
      | some (name, some value) =>
          if options.valued.contains name then
            (a.addValue? name value).bind fun a =>
              readArguments? options stopAtWord a (next :: rest)
          else none
      | some (name, none) =>
          if options.valued.contains name then
            if isDashed next then none
            else (a.addValue? name next).bind fun a => readArguments? options stopAtWord a rest
          else if options.flags.contains name then
            (a.addFlag? name).bind fun a => readArguments? options stopAtWord a (next :: rest)
          else none
      | none =>
          if isDashed arg then none
          else if stopAtWord then some (a, arg :: next :: rest)
          else readArguments? options stopAtWord { a with words := a.words ++ [arg] } (next :: rest)

def optionsOf? : String → Option Options
  | "run" => some { valued := globals ++ ["operator", "export"], flags := ["fair-care"] }
  | "check" => some { valued := globals }
  | "repl" => some { valued := globals ++ ["export-dir"] }
  | _ => none

def jobOf? (name : String) (a : Arguments) : Option Job :=
  match name, a.words with
  | "run", [file] =>
      if file.isEmpty then none
      else some (.run file ⟨a.values.lookup "operator", a.flags.contains "fair-care"⟩
        (a.values.lookup "export"))
  | "check", [file] => if file.isEmpty then none else some (.check file)
  | "repl", [] => some (.repl ((a.values.lookup "export-dir").getD "cycles"))
  | _, _ => none

/-- The global options stand before or after the command; those after it win. -/
def parse? (args : List String) : Option Invocation := do
  let (outer, rest) ← readArguments? { valued := globals } true {} args
  match rest with
  | [] => none
  | name :: rest =>
      let options ← optionsOf? name
      let (inner, _) ← readArguments? options false {} rest
      let job ← jobOf? name inner
      let value? := fun key => (inner.values.lookup key).or (outer.values.lookup key)
      return ⟨value? "axioms", (value? "context").getD "default", job⟩

inductive Progress where
  | exit (code : Nat)
  | console (c : Console)

def resultLines : Nat → List Value → String
  | _, [] => ""
  | n, v :: vs => padded 3 n ++ ". " ++ v.display ++ "\n" ++ resultLines (n + 1) vs

def cycleText (cycle : Cycle) : String :=
  resultLines 1 cycle.results ++
  s!"\n{cycle.successful}/{cycle.evaluated} successful, coherence " ++
  Decimal.places 3 cycle.coherence ++ "\n"

def checkText (program : Program) : String :=
  s!"{program.expressions.length} expression(s):\n" ++
  String.join (program.expressions.map fun v => "  " ++ v.quoted ++ "\n") ++
  if program.intentions.isEmpty then ""
  else "Intentions:\n" ++ String.join (program.intentions.map fun i => "  ;; " ++ i ++ "\n")

variable {m : Type → Type} [Monad m] [Host m]

def fail (f : Failure) : m Progress := do
  Host.warn (f.report ++ "\n")
  return .exit 1

def failPath (what path : String) : m Progress := do
  Host.warn (what ++ ": " ++ path ++ "\n")
  return .exit 1

def loadAxioms (path? : Option String) : m (Except ConfigError Axioms) := do
  match path? with
  | none => return .ok .builtIn
  | some path =>
      match ← Host.readFile? path with
      | none => return .error (.read path)
      | some text => return Axioms.ofText path text

def withProgram (axioms : Axioms) (file : String) (go : Program → m Progress) : m Progress := do
  match ← Host.readFile? file with
  | none => failPath "cannot read" file
  | some source =>
      match Program.read axioms file source with
      | .error e => fail (.ofReadError e)
      | .ok program => go program

def exportCycle (cycle : Cycle) (c : Context) (path : String) : m Progress := do
  if ← Host.writeFile path (cycle.document c).1 then
    Host.say ("Cycle written to " ++ path ++ "\n")
    return .exit 0
  else fail (.unwritten path)

def withContext (name : String) (axioms : Axioms) (now : Nat) (go : Context → m Progress) :
    m Progress :=
  match Context.create name axioms now with
  | .error e => fail (.limit e)
  | .ok c => go c

def perform (inv : Invocation) (axioms : Axioms) (now : Nat) : m Progress :=
  match inv.job with
  | .run file options exportPath? =>
      withProgram axioms file fun program =>
        withContext inv.contextName axioms now fun c => do
          let (cycle, machine) := Machine.runProgram program options { context := c }
          Host.say (cycleText cycle)
          match exportPath? with
          | none => return .exit 0
          | some path => exportCycle cycle machine.context path
  | .check file =>
      withProgram axioms file fun program => do
        Host.say (checkText program)
        return .exit 0
  | .repl exportDir => do
      if ← Host.makeDirectory exportDir then
        withContext inv.contextName axioms now fun c => do
          let console ← Console.start { machine := { context := c }, exportDir := exportDir }
          return .console console
      else failPath "cannot make directory" exportDir

/-- Arguments that cannot be read give the exit code two, every other failure gives one. -/
def start (args : List String) (now : Nat) : m Progress := do
  match parse? args with
  | none =>
      Host.warn "usage: logos [--axioms FILE] [--context NAME] run|check|repl ...\n"
      return .exit 2
  | some inv =>
      match ← loadAxioms inv.axiomsPath? with
      | .error e => fail (.config e)
      | .ok axioms => perform inv axioms now

def run (args : List String) (now : Nat) (input : List (Option String)) : m Nat := do
  match ← start args now with
  | .exit code => return code
  | .console c =>
      let (_, fine) ← c.run input
      return if fine then 0 else 1

end CommandLine

end GestureGraph
