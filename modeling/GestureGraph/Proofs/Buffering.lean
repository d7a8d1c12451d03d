import GestureGraph.Proofs.Brackets
import Mathlib.Data.List.DropRight

namespace GestureGraph

namespace Text

theorem trimEnd_trimEnd (cs : List Char) : trimEnd (trimEnd cs) = trimEnd cs := by
  rw [trimEnd, trimEnd, List.reverse_reverse, List.dropWhile_idempotent]

end Text

namespace Session

def trimmed (line : String) : String := String.ofList (Text.trimEnd line.toList)

@[simp] theorem trimmed_trimmed (line : String) : trimmed (trimmed line) = trimmed line := by
  rw [trimmed, trimmed, String.toList_ofList, Text.trimEnd_trimEnd]

@[simp] theorem isBlankLine_trimmed (line : String) :
    isBlankLine (trimmed line) = isBlankLine line := by
  have hiff : Text.trim (Text.trimEnd line.toList) = [] ↔ Text.trim line.toList = [] := by
    rw [Text.trim_eq_nil_iff, ← Text.trimEnd_eq_nil_iff, Text.trimEnd_trimEnd,
      Text.trimEnd_eq_nil_iff, Text.trim_eq_nil_iff]
  rw [isBlankLine, isBlankLine, trimmed, String.toList_ofList, Bool.eq_iff_iff,
    List.isEmpty_iff, List.isEmpty_iff, hiff]

def joinedWith (s : Session) (line : String) : String :=
  "\n".intercalate (s.buffer ++ [trimmed line])

def waits (s : Session) (line : String) : Bool :=
  (s.isBuffering || (Text.trimStart (s.joinedWith line).toList).head? = some '(') &&
    opensMore (s.joinedWith line)

variable {s : Session} {line : String}

theorem waits_iff : s.waits line = true ↔ opensMore (s.joinedWith line) = true ∧
    (s.buffer = [] → (Text.trimStart (s.joinedWith line).toList).head? = some '(') := by
  rw [waits, Bool.and_eq_true, and_comm, isBuffering, Bool.or_eq_true, decide_eq_true_eq,
    Bool.not_eq_true', List.isEmpty_eq_false_iff, ← imp_iff_not_or.symm]

theorem isIncomplete_eq (h : isBlankLine line = false) :
    isIncomplete s.buffer (trimmed line) = s.waits line := by
  rw [isIncomplete, isBlankLine_trimmed, h, if_neg Bool.false_ne_true, waits, isBuffering,
    joinedWith]
  cases s.buffer with
  | nil => simp
  | cons first rest => simp

theorem pushLine_trimmed (s : Session) (line : String) :
    s.pushLine line =
      if isIncomplete s.buffer (trimmed line) then
        (none, { s with buffer := s.buffer ++ [trimmed line] })
      else if s.isBuffering then (some (s.joinedWith line), { s with buffer := [] })
      else if isBlankLine line then (none, s)
      else (some (trimmed line), s) := by
  rw [← isBlankLine_trimmed line]
  rfl

theorem pushLine_eq (h : isBlankLine line = false) :
    s.pushLine line =
      if s.waits line then (none, { s with buffer := s.buffer ++ [trimmed line] })
      else (some (s.joinedWith line), { s with buffer := [] }) := by
  rw [pushLine_trimmed, isIncomplete_eq h, h]
  obtain ⟨machine, buffer, history, exportDir⟩ := s
  cases buffer with
  | nil => simp [isBuffering, joinedWith]
  | cons first rest => simp [isBuffering]

theorem pushLine_of_blank (h : isBlankLine line = true) :
    s.pushLine line =
      (if s.isBuffering then some (s.joinedWith line) else none, { s with buffer := [] }) := by
  have hcomplete : isIncomplete s.buffer (trimmed line) = false := by
    rw [isIncomplete, isBlankLine_trimmed, h, if_pos rfl]
  rw [pushLine_trimmed, hcomplete, h]
  obtain ⟨machine, buffer, history, exportDir⟩ := s
  cases buffer with
  | nil => simp [isBuffering]
  | cons first rest => simp [isBuffering]

theorem buffer_pushLine (s : Session) (line : String) :
    (s.pushLine line).2.buffer = s.buffer ++ [trimmed line] ∨ (s.pushLine line).2.buffer = [] := by
  cases h : isBlankLine line with
  | true => exact Or.inr (by rw [pushLine_of_blank h])
  | false =>
      rw [pushLine_eq h]
      split
      · exact Or.inl rfl
      · exact Or.inr rfl

def feed (s : Session) : List String → Session
  | [] => s
  | line :: lines => (s.pushLine line).2.feed lines

theorem map_trimmed_feed {lines : List String} (h : s.buffer.map trimmed = s.buffer) :
    (s.feed lines).buffer.map trimmed = (s.feed lines).buffer := by
  induction lines generalizing s with
  | nil => exact h
  | cons line lines ih =>
      rw [feed]
      apply ih
      rcases s.buffer_pushLine line with hbuffer | hbuffer
      · rw [hbuffer, List.map_append, h, List.map_singleton, trimmed_trimmed]
      · rw [hbuffer, List.map_nil]

theorem joinedWith_feed {lines : List String} (h : s.buffer = []) (line : String) :
    (s.feed lines).joinedWith line =
      "\n".intercalate (((s.feed lines).buffer ++ [line]).map trimmed) := by
  have hall : (s.feed lines).buffer.map trimmed = (s.feed lines).buffer :=
    map_trimmed_feed (by rw [h, List.map_nil])
  rw [joinedWith, List.map_append, hall, List.map_singleton]

theorem pushLine_of_complete_input {s₀ : Session} (h₀ : s₀.buffer = []) {lines : List String}
    (hs : s = s₀.feed lines) (hline : isBlankLine line = false) {axioms : Axioms}
    {origin text : String} {program : Program}
    (htext : text = "\n".intercalate ((s.buffer ++ [line]).map trimmed))
    (hread : Program.read axioms origin text = .ok program) :
    s.pushLine line =
      if (asides text).count ')' < (asides text).count '(' ∧
          (s.buffer = [] → (Text.trimStart text.toList).head? = some '(') then
        (none, { s with buffer := s.buffer ++ [trimmed line] })
      else (some text, { s with buffer := [] }) := by
  subst hs
  obtain rfl : text = (s₀.feed lines).joinedWith line := htext.trans (joinedWith_feed h₀ line).symm
  rw [pushLine_eq hline]
  simp only [waits_iff, Program.opensMore_iff hread]

def start : Session where
  machine := { context := Context.bare "console" ⟨{}, [], {}, {}⟩ 0 }
  exportDir := "cycles"

def spreadText : String := "(Phi \"(a\nb)\")"

theorem spread_text_is_returned : (start.feed ["(Phi \"(a  "]).buffer = ["(Phi \"(a"] ∧
    Program.read ⟨{}, [], {}, {}⟩ "" spreadText = .ok ⟨[.list [.str "Phi", .str "(a\nb)"]], []⟩ ∧
    ((start.feed ["(Phi \"(a  "]).pushLine "b)\") ").1 = some spreadText := by
  have hread : Piece.Read spreadText.toList [⟨.token .openParen (.str "("), ['(']⟩,
      ⟨.token .symbol (.str "Phi"), ['P', 'h', 'i']⟩, ⟨.blank, [' ']⟩,
      ⟨.token .string (.str "(a\nb)"), ['"', '(', 'a', '\n', 'b', ')', '"']⟩,
      ⟨.token .closeParen (.str ")"), [')']⟩] [] := by
    iterate 5 refine .cut rfl ?_
    exact .done []
  have hprogram : Program.read ⟨{}, [], {}, {}⟩ "" spreadText =
      .ok ⟨[.list [.str "Phi", .str "(a\nb)"]], []⟩ :=
    Program.read_eq_ok_iff.mpr ⟨rfl, _, Token.scan_of_read hread, _, rfl, rfl⟩
  have hbuffer : (start.feed ["(Phi \"(a  "]).buffer = ["(Phi \"(a"] := by rfl
  have hreturned : (start.feed ["(Phi \"(a  "]).pushLine "b)\") " =
      (some spreadText, { start.feed ["(Phi \"(a  "] with buffer := [] }) := by
    have htext : spreadText =
        "\n".intercalate (((start.feed ["(Phi \"(a  "]).buffer ++ ["b)\") "]).map trimmed) := by
      rw [hbuffer]
      rfl
    refine (pushLine_of_complete_input rfl rfl rfl htext hprogram).trans (if_neg ?_)
    rw [asides_of_read hread]
    decide
  exact ⟨hbuffer, hprogram, by rw [hreturned]⟩

theorem complete_input_withheld : isBlankLine "(Phi \"(\")" = false ∧
    Program.read ⟨{}, [], {}, {}⟩ "" "(Phi \"(\")" = .ok ⟨[.list [.str "Phi", .str "("]], []⟩ ∧
    start.pushLine "(Phi \"(\")" = (none, { start with buffer := ["(Phi \"(\")"] }) := by
  have hread : Piece.Read "(Phi \"(\")".toList [⟨.token .openParen (.str "("), ['(']⟩,
      ⟨.token .symbol (.str "Phi"), ['P', 'h', 'i']⟩, ⟨.blank, [' ']⟩,
      ⟨.token .string (.str "("), ['"', '(', '"']⟩,
      ⟨.token .closeParen (.str ")"), [')']⟩] [] := by
    iterate 5 refine .cut rfl ?_
    exact .done []
  exact ⟨rfl, Program.read_eq_ok_iff.mpr ⟨rfl, _, Token.scan_of_read hread, _, rfl, rfl⟩, rfl⟩

theorem opensMore_eq_false_of_pushLine {input : String} (hline : isBlankLine line = false)
    (h : (s.pushLine line).1 = some input)
    (hstart : (Text.trimStart input.toList).head? = some '(') : opensMore input = false := by
  rw [pushLine_eq hline] at h
  split at h
  · cases h
  · rename_i hwaits
    cases h
    rw [waits_iff, not_and'] at hwaits
    exact Bool.eq_false_iff.mpr (hwaits fun _ => hstart)

theorem balanced_input_is_closed (s : Session) (line input origin : String) (tokens : List Token)
    (hline : isBlankLine line = false) (hinput : (s.pushLine line).1 = some input)
    (hstart : (Text.trimStart input.toList).head? = some '(')
    (hscan : Token.scan origin input = .ok tokens) (hopening : '(' ∉ asides input)
    (hclosing : ')' ∉ asides input) (bound : Nat) (echo shown : String) :
    Program.parse bound echo tokens ≠ .error (.unclosedList shown) := by
  intro hunclosed
  have hopens := Program.opens_of_unclosed hunclosed
  have hbalance := opensMore_eq_false_of_pushLine hline hinput hstart
  rw [opensMore, decide_eq_false_iff_not, count_of_scan hscan (Or.inl rfl),
    count_of_scan hscan (Or.inr rfl), List.count_eq_zero.mpr hopening,
    List.count_eq_zero.mpr hclosing] at hbalance
  rw [List.length_nil] at hopens
  omega

def hastyText : String := "  (Phi (a \"x\"\nb)) ) (Psi"

theorem hasty_text_is_not_unclosed :
    isBlankLine "b)) ) (Psi" = false ∧
    ((start.feed ["  (Phi (a \"x\" "]).pushLine "b)) ) (Psi").1 = some hastyText ∧
    (Text.trimStart hastyText.toList).head? = some '(' ∧ '(' ∉ asides hastyText ∧
    ')' ∉ asides hastyText ∧ ∃ tokens, Token.scan "" hastyText = .ok tokens ∧
      Program.parse 256 "" tokens = .error (.unexpectedClose "") ∧
      ∀ bound echo shown, Program.parse bound echo tokens ≠ .error (.unclosedList shown) := by
  have hread : Piece.Read hastyText.toList [⟨.blank, [' ']⟩, ⟨.blank, [' ']⟩,
      ⟨.token .openParen (.str "("), ['(']⟩, ⟨.token .symbol (.str "Phi"), ['P', 'h', 'i']⟩,
      ⟨.blank, [' ']⟩, ⟨.token .openParen (.str "("), ['(']⟩, ⟨.token .symbol (.str "a"), ['a']⟩,
      ⟨.blank, [' ']⟩, ⟨.token .string (.str "x"), ['"', 'x', '"']⟩, ⟨.blank, ['\n']⟩,
      ⟨.token .symbol (.str "b"), ['b']⟩, ⟨.token .closeParen (.str ")"), [')']⟩,
      ⟨.token .closeParen (.str ")"), [')']⟩, ⟨.blank, [' ']⟩,
      ⟨.token .closeParen (.str ")"), [')']⟩, ⟨.blank, [' ']⟩,
      ⟨.token .openParen (.str "("), ['(']⟩,
      ⟨.token .symbol (.str "Psi"), ['P', 's', 'i']⟩] [] := by
    iterate 18 refine .cut rfl ?_
    exact .done []
  have hasides : asides hastyText = ['"', 'x', '"'] := asides_of_read hread
  have hopening : '(' ∉ asides hastyText := by
    rw [hasides]
    decide
  have hclosing : ')' ∉ asides hastyText := by
    rw [hasides]
    decide
  have hinput : ((start.feed ["  (Phi (a \"x\" "]).pushLine "b)) ) (Psi").1 = some hastyText := rfl
  exact ⟨rfl, hinput, rfl, hopening, hclosing, _, Token.scan_of_read hread, rfl,
    balanced_input_is_closed _ _ hastyText "" _ rfl hinput rfl (Token.scan_of_read hread) hopening
      hclosing⟩

end Session

end GestureGraph
