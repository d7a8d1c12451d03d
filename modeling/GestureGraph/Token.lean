import GestureGraph.Decimal.Read
import GestureGraph.Operator
import GestureGraph.SyntaxError
import GestureGraph.Text.Blank
import GestureGraph.Text.Letter
import GestureGraph.Text.Normal
import GestureGraph.Value

namespace GestureGraph

inductive TokenKind where
  | openParen
  | closeParen
  | string
  | keyword
  | number
  | symbol
  deriving Repr, DecidableEq

def TokenKind.label : TokenKind → String
  | .openParen => "LPAREN"
  | .closeParen => "RPAREN"
  | .string => "STRING"
  | .keyword => "KEYWORD"
  | .number => "NUMBER"
  | .symbol => "SYMBOL"

structure Token where
  kind : TokenKind
  value : Value
  start : Nat
  stop : Nat
  deriving Repr

namespace Token

def size (t : Token) : Nat := t.stop - t.start

end Token

def byteSize : List Char → Nat
  | [] => 0
  | c :: cs => c.utf8Size + byteSize cs

@[simp] theorem byteSize_nil : byteSize [] = 0 := rfl

@[simp] theorem byteSize_append (xs ys : List Char) :
    byteSize (xs ++ ys) = byteSize xs + byteSize ys := by
  induction xs with
  | nil => simp
  | cons c cs ih => simp [byteSize, ih, Nat.add_assoc]

/-- A number from its text: whole numbers of 64 bits are integers, all else is a float. -/
def readNumber? (text : List Char) : Option Value :=
  let float? := (Decimal.read? text).map Value.float
  if text.contains '.' then float?
  else
    let (negative, digits) := Decimal.splitSign text
    let i : Int := if negative then -Decimal.natOf digits else Decimal.natOf digits
    if Int64.minValue.toInt ≤ i ∧ i ≤ Int64.maxValue.toInt then some (.int (Int64.ofInt i))
    else float?

def TokenKind.read? : TokenKind → List Char → Option Value
  | .string, text => some (.str (String.ofList (text.drop 1).dropLast))
  | .symbol, text => some (.str (String.ofList (Text.composed text)))
  | .number, text => readNumber? text
  | _, text => some (.str (String.ofList text))

inductive PieceKind where
  | blank
  | comment
  | token (kind : TokenKind) (value : Value)
  deriving Repr

structure Piece where
  kind : PieceKind
  text : List Char
  deriving Repr

inductive Fault where
  | unterminatedString
  | unexpectedChar (c : Char)
  | invalidNumber (lexeme : List Char)
  deriving Repr, DecidableEq

def Fault.locate (fault : Fault) (offset : Nat) (origin : String) : SyntaxError :=
  match fault with
  | .unterminatedString => .unterminatedString offset origin
  | .unexpectedChar c => .unexpectedChar c offset origin
  | .invalidNumber lexeme => .invalidNumber (String.ofList lexeme) offset origin

namespace Piece

def isSymbolStart (c : Char) : Bool := operatorGlyphs.contains c || Text.isLetter c

def startsComment (c : Char) (rest : List Char) : Bool := c = ';' && rest.head? = some ';'

def cutWord : List Char → List Char × List Char
  | [] => ([], [])
  | c :: cs =>
      if Text.isBlank c || c = '(' || c = ')' || startsComment c cs then ([], c :: cs)
      else
        let (word, rest) := cutWord cs
        (c :: word, rest)

/-- The rest of a string up to its closing quote, which is included. A backslash takes the next
character with it. -/
def cutString? : List Char → Option (List Char × List Char)
  | [] => none
  | '"' :: cs => some (['"'], cs)
  | '\\' :: c :: cs => (cutString? cs).map fun (body, rest) => ('\\' :: c :: body, rest)
  | c :: cs => (cutString? cs).map fun (body, rest) => (c :: body, rest)

def isNumberChar (c : Char) : Bool := Decimal.isDigit c || c = '.'

def startsNumber (c : Char) (rest : List Char) : Bool :=
  Decimal.isDigit c || (c = '-' && (rest.head?.map Decimal.isDigit).getD false)

def ofKind (kind : TokenKind) (text : List Char) : Except Fault Piece :=
  match kind.read? text with
  | some value => .ok ⟨.token kind value, text⟩
  | none => .error (.invalidNumber text)

def cut (c : Char) (cs : List Char) : Except Fault (Piece × List Char) :=
  if Text.isBlank c then .ok (⟨.blank, [c]⟩, cs)
  else if startsComment c cs then
    .ok (⟨.comment, c :: cs.takeWhile (· ≠ '\n')⟩, cs.dropWhile (· ≠ '\n'))
  else if c = '(' then (ofKind .openParen [c]).map (·, cs)
  else if c = ')' then (ofKind .closeParen [c]).map (·, cs)
  else if c = '"' then
    match cutString? cs with
    | some (body, rest) => (ofKind .string (c :: body)).map (·, rest)
    | none => .error .unterminatedString
  else if c = ':' then (ofKind .keyword (c :: (cutWord cs).1)).map (·, (cutWord cs).2)
  else if startsNumber c cs then
    (ofKind .number (c :: cs.takeWhile isNumberChar)).map (·, cs.dropWhile isNumberChar)
  else if isSymbolStart c then (ofKind .symbol (c :: (cutWord cs).1)).map (·, (cutWord cs).2)
  else .error (.unexpectedChar c)

theorem append_cutWord (cs : List Char) : (cutWord cs).1 ++ (cutWord cs).2 = cs := by
  induction cs with
  | nil => rfl
  | cons c cs ih =>
      simp only [cutWord]
      split
      · rfl
      · simp [ih]

theorem append_cutString? {cs body rest : List Char} (h : cutString? cs = some (body, rest)) :
    body ++ rest = cs := by
  fun_induction cutString? cs generalizing body with
  | case1 => cases h
  | case2 cs =>
      obtain ⟨rfl, rfl⟩ := Prod.mk.inj (Option.some.inj h)
      rfl
  | case3 c cs ih =>
      obtain ⟨⟨b, r⟩, hb, he⟩ := Option.map_eq_some_iff.mp h
      obtain ⟨rfl, rfl⟩ := Prod.mk.inj he
      simp [ih hb]
  | case4 c cs _ _ ih =>
      obtain ⟨⟨b, r⟩, hb, he⟩ := Option.map_eq_some_iff.mp h
      obtain ⟨rfl, rfl⟩ := Prod.mk.inj he
      simp [ih hb]

theorem text_ofKind {kind : TokenKind} {text : List Char} {p : Piece}
    (h : ofKind kind text = .ok p) : p.text = text := by
  simp only [ofKind] at h
  split at h
  · cases h; rfl
  · cases h

theorem text_of_map_ofKind {kind : TokenKind} {text rest rest' : List Char} {p : Piece}
    (h : (ofKind kind text).map (·, rest) = .ok (p, rest')) : p.text = text ∧ rest' = rest := by
  cases hk : ofKind kind text with
  | error f => rw [hk] at h; cases h
  | ok q =>
      rw [hk] at h
      obtain ⟨rfl, rfl⟩ := Prod.mk.inj (Except.ok.inj h)
      exact ⟨text_ofKind hk, rfl⟩

theorem cut_append {c : Char} {cs rest : List Char} {p : Piece} (h : cut c cs = .ok (p, rest)) :
    p.text ≠ [] ∧ p.text ++ rest = c :: cs := by
  simp only [cut] at h
  split at h
  · cases h; simp
  split at h
  · cases h; simp [List.takeWhile_append_dropWhile]
  split at h
  · obtain ⟨ht, rfl⟩ := text_of_map_ofKind h; simp [ht]
  split at h
  · obtain ⟨ht, rfl⟩ := text_of_map_ofKind h; simp [ht]
  split at h
  · split at h
    · rename_i hs
      obtain ⟨ht, rfl⟩ := text_of_map_ofKind h
      simp [ht, append_cutString? hs]
    · cases h
  split at h
  · obtain ⟨ht, rfl⟩ := text_of_map_ofKind h; simp [ht, append_cutWord]
  split at h
  · obtain ⟨ht, rfl⟩ := text_of_map_ofKind h; simp [ht, List.takeWhile_append_dropWhile]
  split at h
  · obtain ⟨ht, rfl⟩ := text_of_map_ofKind h; simp [ht, append_cutWord]
  · cases h

theorem length_rest_of_cut {c : Char} {cs rest : List Char} {p : Piece}
    (h : cut c cs = .ok (p, rest)) : rest.length < (c :: cs).length := by
  obtain ⟨hne, happ⟩ := cut_append h
  have hlen := congrArg List.length happ
  have hpos := List.length_pos_iff.mpr hne
  simp only [List.length_append] at hlen
  omega

def scan : List Char → List Piece × Option Fault
  | [] => ([], none)
  | c :: cs =>
      match h : cut c cs with
      | .error fault => ([], some fault)
      | .ok (piece, rest) =>
          have : rest.length < (c :: cs).length := length_rest_of_cut h
          let (pieces, fault?) := scan rest
          (piece :: pieces, fault?)
termination_by cs => cs.length
decreasing_by assumption

def tokensFrom (offset : Nat) : List Piece → List Token
  | [] => []
  | p :: ps =>
      let stop := offset + byteSize p.text
      match p.kind with
      | .token kind value => ⟨kind, value, offset, stop⟩ :: tokensFrom stop ps
      | _ => tokensFrom stop ps

def joined (pieces : List Piece) : List Char := pieces.flatMap (·.text)

end Piece

def Token.scan (origin source : String) : Except SyntaxError (List Token) :=
  match Piece.scan source.toList with
  | (pieces, none) => .ok (Piece.tokensFrom 0 pieces)
  | (pieces, some fault) => .error (fault.locate (byteSize (Piece.joined pieces)) origin)

end GestureGraph
