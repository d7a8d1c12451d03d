namespace GestureGraph

inductive Operator where
  | alpha
  | lambda
  | sigma
  | omega
  | nabla
  | phi
  deriving Repr, DecidableEq

namespace Operator

def all : List Operator := [.alpha, .lambda, .sigma, .omega, .nabla, .phi]

def glyph : Operator → String
  | .alpha => "Α"
  | .lambda => "Λ"
  | .sigma => "Σ"
  | .omega => "Ω"
  | .nabla => "∇"
  | .phi => "Φ"

def latin : Operator → String
  | .alpha => "Alpha"
  | .lambda => "Lambda"
  | .sigma => "Sigma"
  | .omega => "Omega"
  | .nabla => "Nabla"
  | .phi => "Phi"

def meaning : Operator → String
  | .alpha => "collapse"
  | .lambda => "connection"
  | .sigma => "synthesis"
  | .omega => "return"
  | .nabla => "enrichment"
  | .phi => "dialogue"

def ofSymbol? (symbol : String) : Option Operator :=
  all.find? fun op => op.glyph == symbol || op.latin == symbol

def isSpecial : Operator → Bool
  | .alpha => true
  | .omega => true
  | .phi => true
  | _ => false

def isSignificant : Operator → Bool
  | .omega => false
  | .phi => false
  | _ => true

theorem mem_all (op : Operator) : op ∈ all := by cases op <;> decide

theorem ofSymbol?_glyph (op : Operator) : ofSymbol? op.glyph = some op := by cases op <;> decide

theorem ofSymbol?_latin (op : Operator) : ofSymbol? op.latin = some op := by cases op <;> decide

theorem glyph_ne_latin (op op' : Operator) : op.glyph ≠ op'.latin := by
  cases op <;> cases op' <;> decide

end Operator

/-- The glyphs, which may start a symbol even where they are no letters. -/
def operatorGlyphs : List Char := ['Α', 'Λ', 'Σ', 'Ω', '∇', 'Φ']

end GestureGraph
