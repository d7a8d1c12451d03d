import GestureGraph.Proofs.Pieces
import Mathlib.Data.List.Infix
import Mathlib.Tactic.SplitIfs

namespace GestureGraph

def Stops (rest : List Char) : Prop := ∀ c ∈ rest.head?, c = ' ' ∨ c = ')'

theorem stops_nil : Stops [] := by simp [Stops]

theorem stops_blank (rest : List Char) : Stops (' ' :: rest) := by simp [Stops]

theorem stops_closing (rest : List Char) : Stops (')' :: rest) := by simp [Stops]

namespace Text

theorem digitChar_plain : ∀ d < 16, d.digitChar ≠ '"' ∧ d.digitChar ≠ '\\' := by decide

theorem hexadecimal_plain {c : Char} {n : Nat} (h : c ∈ Nat.toDigits 16 n) :
    c ≠ '"' ∧ c ≠ '\\' := by
  induction n using Nat.strongRecOn with
  | ind n ih =>
      by_cases hn : n < 16
      · rw [Nat.toDigits_of_lt_base hn, List.mem_singleton] at h
        exact h ▸ digitChar_plain n hn
      · rw [Nat.toDigits_of_base_le (by decide) (Nat.not_lt.mp hn), List.mem_append,
          List.mem_singleton] at h
        rcases h with h | rfl
        · exact ih _ (Nat.div_lt_self (by omega) (by decide)) h
        · exact digitChar_plain _ (Nat.mod_lt n (by decide))

end Text

namespace Piece

def Inside (cs : List Char) : Prop :=
  ∀ rest, cutString? (cs ++ rest) = (cutString? rest).map fun (body, rest) => (cs ++ body, rest)

theorem inside_nil : Inside [] := by
  intro rest
  cases h : cutString? rest <;> simp [h]

theorem Inside.append {cs ds : List Char} (hc : Inside cs) (hd : Inside ds) :
    Inside (cs ++ ds) := by
  intro rest
  rw [List.append_assoc, hc, hd, Option.map_map]
  congr 1
  funext ⟨body, rest⟩
  simp

theorem inside_plain {cs : List Char} (h : ∀ c ∈ cs, c ≠ '"' ∧ c ≠ '\\') : Inside cs := by
  induction cs with
  | nil => exact inside_nil
  | cons c cs ih =>
      obtain ⟨hc, hcs⟩ := List.forall_mem_cons.mp h
      have hfirst : Inside [c] := cutString?_cons hc.1 hc.2
      exact hfirst.append (ih hcs)

theorem inside_pair (c : Char) : Inside ['\\', c] := fun _ => rfl

theorem inside_escapeChar (shows : Char → Bool) (c : Char) :
    Inside (Text.escapeChar shows c) := by
  rw [Text.escapeChar]
  split_ifs with hquote hback hline hreturn htab hnull hvisible
  · exact inside_pair _
  · exact inside_pair _
  · exact inside_pair _
  · exact inside_pair _
  · exact inside_pair _
  · exact inside_pair _
  · exact inside_plain (by simpa using ⟨hquote, hback⟩)
  · have hbrace : Inside ['\x7b'] := inside_plain (List.forall_mem_singleton.mpr (by decide))
    have hcode : Inside (Nat.toDigits 16 c.toNat) := inside_plain fun d => Text.hexadecimal_plain
    have hclose : Inside ['\x7d'] := inside_plain (List.forall_mem_singleton.mpr (by decide))
    exact (((inside_pair 'u').append hbrace).append hcode).append hclose

theorem inside_escape (shows : Char → Bool) (cs : List Char) :
    Inside (Text.escape shows cs) := by
  induction cs with
  | nil => exact inside_nil
  | cons c cs ih => exact (inside_escapeChar shows c).append ih

theorem read_quoted (shows : Char → Bool) (text : String) (rest : List Char) :
    Read ((Text.quotedBy shows text).toList ++ rest)
      [⟨.token .string (.str (String.ofList (Text.escape shows text.toList))),
        (Text.quotedBy shows text).toList⟩] rest := by
  have hstring : cutString? (Text.escape shows text.toList ++ '"' :: rest) =
      some (Text.escape shows text.toList ++ ['"'], rest) := inside_escape _ _ _
  have htext : (Text.quotedBy shows text).toList =
      '"' :: (Text.escape shows text.toList ++ ['"']) := by
    simp [Text.quotedBy]
  rw [htext]
  refine .cut ?_ (.done rest)
  have hblank : Text.isBlank '"' = false := by decide
  simp [cut, hblank, startsComment, hstring, ofKind, TokenKind.read?, Except.map]

structure IsWord (cs : List Char) : Prop where
  unbroken : ∀ c ∈ cs, Text.isBlank c = false ∧ c ≠ '(' ∧ c ≠ ')'
  silent : ¬ [';', ';'] <:+: cs

instance (cs : List Char) : Decidable (IsWord cs) :=
  decidable_of_iff
    ((cs.all fun c => !Text.isBlank c && c != '(' && c != ')') ∧ ¬ [';', ';'] <:+: cs)
    ⟨fun h => ⟨by simpa [and_assoc] using h.1, h.2⟩,
      fun h => ⟨by simpa [and_assoc] using h.unbroken, h.silent⟩⟩

theorem IsWord.tail {c : Char} {cs : List Char} (h : IsWord (c :: cs)) : IsWord cs where
  unbroken d hd := h.unbroken d (List.mem_cons_of_mem c hd)
  silent hmark := h.silent (hmark.trans (List.suffix_cons c cs).isInfix)

theorem IsWord.startsComment {c : Char} {cs rest : List Char} (h : IsWord (c :: cs))
    (hrest : Stops rest) : startsComment c (cs ++ rest) = false := by
  rw [Piece.startsComment, Bool.and_eq_false_iff, decide_eq_false_iff_not, decide_eq_false_iff_not]
  by_cases hc : c = ';'
  · refine Or.inr fun hhead => ?_
    cases cs with
    | nil => rcases hrest ';' hhead with h | h <;> cases h
    | cons d ds =>
        obtain rfl : d = ';' := Option.some.inj hhead
        exact h.silent ⟨[], ds, by rw [hc]; rfl⟩
  · exact Or.inl hc

theorem cutWord_of_stops {rest : List Char} (h : Stops rest) : cutWord rest = ([], rest) := by
  cases rest with
  | nil => rfl
  | cons c cs =>
      rcases h c rfl with rfl | rfl
      · rfl
      · rfl

theorem cutWord_append {cs rest : List Char} (h : IsWord cs) (hrest : Stops rest) :
    cutWord (cs ++ rest) = (cs, rest) := by
  induction cs with
  | nil => exact cutWord_of_stops hrest
  | cons c cs ih =>
      obtain ⟨hblank, hopen, hclose⟩ := h.unbroken c List.mem_cons_self
      simp [cutWord, hblank, hopen, hclose, h.startsComment hrest, ih h.tail]

theorem read_keyword {key rest : List Char} (h : IsWord key) (hrest : Stops rest) :
    Read (':' :: key ++ rest)
      [⟨.token .keyword (.str (String.ofList (':' :: key))), ':' :: key⟩] rest := by
  refine .cut ?_ (.done rest)
  have hblank : Text.isBlank ':' = false := by decide
  simp [cut, hblank, startsComment, cutWord_append h hrest, ofKind, TokenKind.read?, Except.map]

theorem toNat_of_isDigit {c : Char} (h : Decimal.isDigit c = true) :
    48 ≤ c.toNat ∧ c.toNat ≤ 57 := Char.isDigit_iff_toNat.mp h

theorem not_digit_of_isSymbolStart {c : Char} (h : isSymbolStart c = true) :
    Decimal.isDigit c = false := by
  rw [Bool.eq_false_iff]
  intro hdigit
  rw [isSymbolStart, Bool.or_eq_true, List.contains_iff_mem] at h
  rcases h with hglyph | hletter
  · have hnone : operatorGlyphs.all (fun g => !Decimal.isDigit g) = true := by decide
    have hother := List.all_eq_true.mp hnone c hglyph
    rw [hdigit] at hother
    cases hother
  · obtain ⟨_, hle⟩ := toNat_of_isDigit hdigit
    have hnone : ∀ n ≤ 57, (Char.ofNat n).isAlpha = false := by decide
    have hother := hnone c.toNat hle
    rw [Char.ofNat_toNat] at hother
    rw [Text.isLetter, if_pos (by omega), hother] at hletter
    cases hletter

theorem ne_of_isSymbolStart {c d : Char} (h : isSymbolStart c = true)
    (hd : isSymbolStart d = false) : c ≠ d := by
  rintro rfl
  rw [h] at hd
  cases hd

theorem read_symbol {c : Char} {cs rest : List Char} (hstart : isSymbolStart c = true)
    (h : IsWord (c :: cs)) (hcomposed : Text.composed (c :: cs) = c :: cs) (hrest : Stops rest) :
    Read (c :: cs ++ rest)
      [⟨.token .symbol (.str (String.ofList (c :: cs))), c :: cs⟩] rest := by
  refine .cut ?_ (.done rest)
  obtain ⟨hblank, hopen, hclose⟩ := h.unbroken c List.mem_cons_self
  have hquote : c ≠ '"' := ne_of_isSymbolStart hstart (by decide)
  have hcolon : c ≠ ':' := ne_of_isSymbolStart hstart (by decide)
  have hminus : c ≠ '-' := ne_of_isSymbolStart hstart (by decide)
  have hnumber : startsNumber c (cs ++ rest) = false := by
    simp [startsNumber, not_digit_of_isSymbolStart hstart, hminus]
  simp [cut, hblank, h.startsComment hrest, hopen, hclose, hquote, hcolon, hnumber, hstart,
    cutWord_append h.tail hrest, ofKind, TokenKind.read?, hcomposed, Except.map]

theorem isDigit_of_mem_toDigits {c : Char} {n : Nat} (h : c ∈ Nat.toDigits 10 n) :
    Decimal.isDigit c = true := Nat.isDigit_of_mem_toDigits (by decide) (by decide) h

theorem natOf_toDigits (n : Nat) : Decimal.natOf (Nat.toDigits 10 n) = n :=
  Nat.ofDigitChars_ten_toDigits

theorem toString_cases (i : Int) : ∃ n : Nat,
    (toString i).toList = Nat.toDigits 10 n ∧ i = n ∨
    (toString i).toList = '-' :: Nat.toDigits 10 n ∧ i = -n := by
  rw [Int.toString_eq_repr]
  cases i with
  | ofNat n => exact ⟨n, Or.inl ⟨Nat.toList_repr, rfl⟩⟩
  | negSucc n =>
      refine ⟨n.succ, Or.inr ⟨?_, rfl⟩⟩
      show ("-" ++ n.succ.repr).toList = _
      rw [String.toList_append, Nat.toList_repr]
      rfl

theorem intText_cases (i : Int64) : ∃ n : Nat,
    (Value.intText i).toList = Nat.toDigits 10 n ∧ i.toInt = n ∨
    (Value.intText i).toList = '-' :: Nat.toDigits 10 n ∧ i.toInt = -n := toString_cases i.toInt

theorem not_contains_point {ds : List Char} (h : ∀ c ∈ ds, Decimal.isDigit c = true) :
    ds.contains '.' = false := by
  rw [Bool.eq_false_iff, Ne, List.contains_iff_mem]
  exact fun hmem => absurd (h '.' hmem) (by decide)

theorem splitSign_digits {ds : List Char} (h : ∀ c ∈ ds, Decimal.isDigit c = true) :
    Decimal.splitSign ds = (false, ds) := by
  fun_cases Decimal.splitSign ds with
  | case1 cs => exact absurd (h '-' List.mem_cons_self) (by decide)
  | case2 cs => exact absurd (h '+' List.mem_cons_self) (by decide)
  | case3 => rfl

theorem readNumber?_intText (i : Int64) :
    readNumber? (Value.intText i).toList = some (.int i) := by
  have hrange : Int64.minValue.toInt ≤ i.toInt ∧ i.toInt ≤ Int64.maxValue.toInt :=
    ⟨i.minValue_le_toInt, i.toInt_le⟩
  obtain ⟨n, ⟨htext, hi⟩ | ⟨htext, hi⟩⟩ := intText_cases i
  · have hdigits : ∀ c ∈ Nat.toDigits 10 n, Decimal.isDigit c = true :=
      fun c => isDigit_of_mem_toDigits
    rw [htext, readNumber?, not_contains_point hdigits, splitSign_digits hdigits]
    simp only [natOf_toDigits, ← hi, hrange, Int64.ofInt_toInt, if_true, Bool.false_eq_true,
      if_false, and_self]
  · have hdigits : ∀ c ∈ Nat.toDigits 10 n, Decimal.isDigit c = true :=
      fun c => isDigit_of_mem_toDigits
    have hpoint : ('-' :: Nat.toDigits 10 n).contains '.' = false := by
      rw [List.contains_cons, not_contains_point hdigits]
      rfl
    rw [htext, readNumber?, hpoint]
    simp only [Decimal.splitSign, natOf_toDigits, ← hi, hrange, Int64.ofInt_toInt, if_true,
      Bool.false_eq_true, if_false, and_self]

theorem plain_of_startsNumber {c : Char} (h : c = '-' ∨ Decimal.isDigit c = true) :
    Text.isBlank c = false ∧ c ≠ ';' ∧ c ≠ '(' ∧ c ≠ ')' ∧ c ≠ '"' ∧ c ≠ ':' := by
  refine ⟨?_, ?_, ?_, ?_, ?_, ?_⟩
  · rcases h with rfl | h
    · decide
    · obtain ⟨hle, hge⟩ := toNat_of_isDigit h
      simp only [Text.isBlank, Bool.or_eq_false_iff, Bool.and_eq_false_iff,
        decide_eq_false_iff_not, beq_eq_false_iff_ne]
      omega
  all_goals
    rintro rfl
    revert h
    decide

theorem span_number {ds rest : List Char} (h : ∀ c ∈ ds, Decimal.isDigit c = true)
    (hrest : Stops rest) :
    (ds ++ rest).takeWhile isNumberChar = ds ∧ (ds ++ rest).dropWhile isNumberChar = rest := by
  refine span_append (fun c hc => isNumberChar_of_isDigit (h c hc)) fun c hc => ?_
  rcases hrest c hc with rfl | rfl
  · rfl
  · rfl

theorem cut_number {c : Char} {cs rest : List Char} {value : Value}
    (hc : c = '-' ∨ Decimal.isDigit c = true) (hstart : startsNumber c (cs ++ rest) = true)
    (hcs : ∀ d ∈ cs, Decimal.isDigit d = true) (hrest : Stops rest)
    (hvalue : readNumber? (c :: cs) = some value) :
    cut c (cs ++ rest) = .ok (⟨.token .number value, c :: cs⟩, rest) := by
  obtain ⟨hblank, hsemicolon, hopen, hclose, hquote, hcolon⟩ := plain_of_startsNumber hc
  obtain ⟨htake, hdrop⟩ := span_number hcs hrest
  simp [cut, hblank, startsComment, hsemicolon, hopen, hclose, hquote, hcolon, hstart, htake, hdrop,
    ofKind, TokenKind.read?, hvalue, Except.map]

theorem read_int (i : Int64) {rest : List Char} (hrest : Stops rest) :
    Read ((Value.intText i).toList ++ rest)
      [⟨.token .number (.int i), (Value.intText i).toList⟩] rest := by
  have hvalue := readNumber?_intText i
  obtain ⟨n, ⟨htext, _⟩ | ⟨htext, _⟩⟩ := intText_cases i
  · rw [htext] at hvalue ⊢
    obtain ⟨c, cs, hdigits⟩ := List.exists_cons_of_ne_nil (Nat.toDigits_ne_nil (n := n) (b := 10))
    have hall : ∀ d ∈ c :: cs, Decimal.isDigit d = true :=
      fun d hd => isDigit_of_mem_toDigits (hdigits ▸ hd)
    obtain ⟨hc, hcs⟩ := List.forall_mem_cons.mp hall
    rw [hdigits] at hvalue ⊢
    refine .cut (cut_number (Or.inr hc) ?_ hcs hrest hvalue) (.done rest)
    rw [startsNumber, hc, Bool.true_or]
  · rw [htext] at hvalue ⊢
    obtain ⟨c, cs, hdigits⟩ := List.exists_cons_of_ne_nil (Nat.toDigits_ne_nil (n := n) (b := 10))
    have hall : ∀ d ∈ Nat.toDigits 10 n, Decimal.isDigit d = true :=
      fun d => isDigit_of_mem_toDigits
    refine .cut (cut_number (Or.inl rfl) ?_ hall hrest hvalue) (.done rest)
    have hc : Decimal.isDigit c = true := hall c (hdigits ▸ List.mem_cons_self)
    simp [startsNumber, hdigits, hc]

end Piece

end GestureGraph
