namespace GestureGraph

inductive SyntaxError where
  | unterminatedString (offset : Nat) (origin : String)
  | unexpectedChar (c : Char) (offset : Nat) (origin : String)
  | invalidNumber (lexeme : String) (offset : Nat) (origin : String)
  | unexpectedClose (echo : String)
  | unclosedList (echo : String)
  | keywordHead (head echo : String)
  | nonOperatorHead (head echo : String)
  | tooDeep (depth max : Nat) (echo : String)
  deriving Repr, DecidableEq

structure Label where
  text : String
  offset : Nat
  length : Nat
  deriving Repr, DecidableEq

namespace SyntaxError

def message : SyntaxError → String
  | .unterminatedString offset _ => s!"unterminated string literal starting at offset {offset}"
  | .unexpectedChar c offset _ => s!"unrecognized character '{c}' at offset {offset}"
  | .invalidNumber lexeme offset _ => s!"malformed number '{lexeme}' at offset {offset}"
  | .unexpectedClose echo => s!"LOGOS-κ syntax error: unexpected closing paren ')'{echo}"
  | .unclosedList echo => s!"LOGOS-κ syntax error: unclosed paren '('{echo}"
  | .keywordHead head echo =>
      s!"LOGOS-κ syntax error: list head cannot be a keyword: {head}{echo}"
  | .nonOperatorHead head echo =>
      s!"LOGOS-κ syntax error: list head must be an operator, got: {head}{echo}"
  | .tooDeep depth max echo =>
      s!"LOGOS-κ syntax error: lists nest {depth} deep, bound is {max}{echo}"

def code : SyntaxError → String
  | .unterminatedString .. => "logos::syntax::unterminated_string"
  | .unexpectedChar .. => "logos::syntax::unexpected_char"
  | .invalidNumber .. => "logos::syntax::invalid_number"
  | .unexpectedClose .. => "logos::syntax::unexpected_close"
  | .unclosedList .. => "logos::syntax::unclosed_list"
  | .keywordHead .. => "logos::syntax::keyword_head"
  | .nonOperatorHead .. => "logos::syntax::non_operator_head"
  | .tooDeep .. => "logos::syntax::too_deep"

def help : SyntaxError → String
  | .unterminatedString .. =>
      "Close the string with a matching double quote. Use \\\" to embed a quote."
  | .unexpectedChar .. =>
      "Symbols start with a letter or an operator glyph (Α Λ Σ Ω ∇ Φ). " ++
        "Keywords start with ':', strings are double-quoted, comments start with ';;'."
  | .invalidNumber .. =>
      "Numbers are integers like 42 or -7, or decimals with a single '.' like 3.14."
  | .unexpectedClose .. => "Remove the extra ')' or add the matching '(' before it."
  | .unclosedList .. =>
      "Every '(' needs a matching ')'. Count the parens of the last expression."
  | .keywordHead .. =>
      "Keywords pair with a value after the operator, as in (Α \"x\" :name \"y\")."
  | .nonOperatorHead .. =>
      "Start every list with an operator glyph or alias, " ++
        "e.g. (Λ \"a\" \"b\") or (Lambda \"a\" \"b\")."
  | .tooDeep .. => "Flatten the expression or raise `limits.max_parse_depth` in the axioms file."

def label? : SyntaxError → Option Label
  | .unterminatedString offset _ => some ⟨"string opens here", offset, 1⟩
  | .unexpectedChar c offset _ => some ⟨"not part of any token", offset, c.utf8Size⟩
  | .invalidNumber lexeme offset _ =>
      some ⟨"cannot be read as a number", offset, lexeme.utf8ByteSize⟩
  | _ => none

def origin? : SyntaxError → Option String
  | .unterminatedString _ origin => some origin
  | .unexpectedChar _ _ origin => some origin
  | .invalidNumber _ _ origin => some origin
  | _ => none

end SyntaxError

end GestureGraph
