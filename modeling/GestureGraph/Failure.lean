import GestureGraph.EvalError
import GestureGraph.Program

namespace GestureGraph

inductive Failure where
  | syntactic (e : SyntaxError)
  | limit (e : LimitError)
  | eval (e : EvalError)
  | config (e : ConfigError)
  | unwritten (path : String)
  deriving Repr, DecidableEq

namespace Failure

def ofReadError : ReadError → Failure
  | .limit e => .limit e
  | .syntactic e => .syntactic e

def message? : Failure → Option String
  | .syntactic e => some e.message
  | .limit e => some e.message
  | .eval e => some e.message
  | .config e => e.message?
  | .unwritten path => some ("failed to write export file " ++ path)

def code : Failure → String
  | .syntactic e => e.code
  | .limit e => e.code
  | .eval e => e.code
  | .config e => e.code
  | .unwritten _ => "logos::export::io"

def help : Failure → String
  | .syntactic e => e.help
  | .limit e => e.help
  | .eval e => e.help
  | .config e => e.help
  | .unwritten _ => "Check that the parent directory exists and is writable."

def report (f : Failure) : String :=
  "error[" ++ f.code ++ "]: " ++ f.message?.getD "" ++ "\nhelp: " ++ f.help

end Failure

end GestureGraph
