import GestureGraph.Limit

namespace GestureGraph

inductive EvalError where
  | malformed (expr : String)
  | arity (operator : String) (expected actual : Nat)
  | unnamed (operator operand : String)
  | limit (e : LimitError)
  deriving Repr, DecidableEq

namespace EvalError

def message : EvalError → String
  | .malformed expr => "malformed expression: " ++ expr
  | .arity operator expected actual =>
      s!"{operator} expects at least {expected} operand(s), got {actual}"
  | .unnamed operator operand => s!"{operator}: operand {operand} does not name an entity"
  | .limit e => e.message

def code : EvalError → String
  | .malformed _ => "logos::eval::type_error"
  | .arity .. => "logos::eval::arity"
  | .unnamed .. => "logos::eval::unnamed_operand"
  | .limit e => e.code

def help : EvalError → String
  | .malformed _ =>
      "An expression is an atom or a non-empty list whose head is an operator symbol."
  | .arity operator .. =>
      s!"Check the operand count for {operator}. Keyword pairs do not count as operands."
  | .unnamed .. =>
      "Entity names come from strings, symbols or numbers. Lists and nil cannot name an entity."
  | .limit e => e.help

def isLimit : EvalError → Bool
  | .limit _ => true
  | _ => false

end EvalError

end GestureGraph
