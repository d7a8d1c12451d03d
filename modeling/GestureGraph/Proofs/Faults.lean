import GestureGraph.Proofs.Cuts
import Mathlib.Algebra.Group.Nat.Even
import Mathlib.Algebra.Ring.Parity

namespace GestureGraph

/-- Behind an odd number of backslashes in a row, a character is taken along by the last of them. -/
def Escaped (before : List Char) : Prop := Odd (before.reverse.takeWhile (· = '\\')).length

theorem escaped_backslash : Escaped ['\\'] := ⟨0, rfl⟩

theorem Escaped.cons {as : List Char} (h : Escaped as) {c : Char} (hc : c ≠ '\\') :
    Escaped (c :: as) := by
  rw [Escaped, List.reverse_cons, List.takeWhile_append]
  split
  · rename_i hall
    rw [Escaped, hall] at h
    simpa [hc] using h
  · exact h

theorem Escaped.pair {as : List Char} (h : Escaped as) (c : Char) : Escaped ('\\' :: c :: as) := by
  rw [Escaped, List.reverse_cons, List.reverse_cons, List.append_assoc, List.takeWhile_append]
  split
  · rename_i hall
    rw [Escaped, hall] at h
    by_cases hc : c = '\\'
    · have hcount : (as.reverse ++ ['\\', '\\']).length = as.reverse.length + 2 := by simp
      simpa [hc, hcount] using h.add_even (by decide : Even 2)
    · simpa [hc] using h
  · exact h

namespace Piece

theorem escaped_of_cutString? {cs as bs : List Char} (h : cutString? cs = none)
    (hcs : cs = as ++ '"' :: bs) : Escaped as := by
  fun_induction cutString? cs generalizing as with
  | case1 => simp at hcs
  | case2 cs => cases h
  | case3 c cs ih =>
      have h := Option.map_eq_none_iff.mp h
      rcases as with _ | ⟨a, _ | ⟨b, as⟩⟩
      · cases hcs
      · cases hcs
        exact escaped_backslash
      · cases hcs
        exact (ih h rfl).pair _
  | case4 c cs hquote hback ih =>
      have h := Option.map_eq_none_iff.mp h
      cases as with
      | nil => cases hcs; exact absurd rfl hquote
      | cons a as =>
          cases hcs
          refine (ih h rfl).cons ?_
          rintro rfl
          obtain ⟨d, ds, hds⟩ := List.exists_cons_of_ne_nil
            (List.append_ne_nil_of_right_ne_nil as (List.cons_ne_nil '"' bs))
          exact hback d ds rfl hds

end Piece

namespace Decimal

variable {sign digits whole rest : List Char}

theorem isSome_readUnsigned? (hfirst : ∃ d ∈ digits.head?, isDigit d = true)
    (hdigits : ∀ d ∈ digits, isDigit d = true ∨ d = '.') (hpoints : digits.count '.' < 2) :
    (readUnsigned? digits).isSome = true := by
  have hwhole : digits.takeWhile isDigit ≠ [] := by
    obtain ⟨d, hd, hdigit⟩ := hfirst
    obtain ⟨ds, rfl⟩ := List.head?_eq_some_iff.mp hd
    rw [List.takeWhile_cons_of_pos hdigit]
    exact List.cons_ne_nil _ _
  rw [readUnsigned?]
  have hsplit := List.takeWhile_append_dropWhile (p := isDigit) (l := digits)
  cases hrest : digits.dropWhile isDigit with
  | nil => simp [hwhole, readPower?]
  | cons c decimals =>
      have hc : isDigit c = false := Piece.not_of_head?_dropWhile (by rw [hrest]; rfl)
      have hmem : ∀ d ∈ c :: decimals, d ∈ digits := fun d hd => by
        rw [← hsplit, hrest]
        exact List.mem_append_right _ hd
      obtain rfl : c = '.' := (hdigits c (hmem c List.mem_cons_self)).resolve_left (by simp [hc])
      have hnone : '.' ∉ decimals := by
        rw [← hsplit, hrest, List.count_append, List.count_cons_self] at hpoints
        exact List.count_eq_zero.mp (by omega)
      have hall : ∀ d ∈ decimals, isDigit d = true := fun d hd =>
        (hdigits d (hmem d (List.mem_cons_of_mem _ hd))).resolve_right fun h => hnone (h ▸ hd)
      simp [hwhole, List.takeWhile_eq_self_iff.mpr hall, List.dropWhile_eq_nil_iff.mpr hall,
        readPower?]

theorem splitSign_append (hsign : sign = [] ∨ sign = ['-'])
    (hfirst : ∃ d ∈ digits.head?, isDigit d = true) : (splitSign (sign ++ digits)).2 = digits := by
  rcases hsign with rfl | rfl
  · obtain ⟨d, hd, hdigit⟩ := hfirst
    obtain ⟨ds, rfl⟩ := List.head?_eq_some_iff.mp hd
    rw [List.nil_append, splitSign]
    · rintro _ ⟨⟩
      cases hdigit
    · rintro _ ⟨⟩
      cases hdigit
  · rfl

theorem isSome_read? (hsign : sign = [] ∨ sign = ['-'])
    (hfirst : ∃ d ∈ digits.head?, isDigit d = true)
    (hdigits : ∀ d ∈ digits, isDigit d = true ∨ d = '.') (hpoints : digits.count '.' < 2) :
    (read? (sign ++ digits)).isSome = true := by
  have hbody := isSome_readUnsigned? hfirst hdigits hpoints
  simp only [read?, splitSign_append hsign hfirst, Option.isSome_map, Option.isSome_or, hbody,
    Bool.true_or]

end Decimal

theorem isSome_readNumber? {sign digits : List Char} (hsign : sign = [] ∨ sign = ['-'])
    (hfirst : ∃ d ∈ digits.head?, Decimal.isDigit d = true)
    (hdigits : ∀ d ∈ digits, Decimal.isDigit d = true ∨ d = '.')
    (hpoints : digits.count '.' < 2) : (readNumber? (sign ++ digits)).isSome = true := by
  have hfloat := Decimal.isSome_read? hsign hfirst hdigits hpoints
  have hfloat' : ((Decimal.read? (sign ++ digits)).map Value.float).isSome = true := by
    rwa [Option.isSome_map]
  rw [readNumber?]
  split_ifs
  · exact hfloat'
  · simp only
    split_ifs
    · rfl
    · exact hfloat'
    · rfl
    · exact hfloat'

structure Strange (c : Char) (cs : List Char) : Prop where
  notBlank : Text.isBlank c = false
  notOpening : c ≠ '('
  notClosing : c ≠ ')'
  notQuote : c ≠ '"'
  notColon : c ≠ ':'
  notDigit : Decimal.isDigit c = false
  notLetter : Piece.isSymbolStart c = false
  notComment : c = ';' → cs.head? ≠ some ';'
  notNegative : c = '-' → ∀ d ∈ cs.head?, Decimal.isDigit d = false

inductive Fault.Fits : Fault → List Char → Prop
  | unterminatedString {cs : List Char}
      (hescaped : ∀ before behind, cs = before ++ '"' :: behind → Escaped before) :
      Fits .unterminatedString ('"' :: cs)
  | unexpectedChar {c : Char} {cs : List Char} (hstrange : Strange c cs) :
      Fits (.unexpectedChar c) (c :: cs)
  | invalidNumber {sign digits rest : List Char} (hsign : sign = [] ∨ sign = ['-'])
      (hfirst : ∃ d ∈ digits.head?, Decimal.isDigit d = true)
      (hdigits : ∀ d ∈ digits, Decimal.isDigit d = true ∨ d = '.')
      (hrest : ∀ d ∈ rest.head?, Decimal.isDigit d = false ∧ d ≠ '.')
      (hpoints : 2 ≤ digits.count '.') :
      Fits (.invalidNumber (sign ++ digits)) (sign ++ digits ++ rest)

namespace Piece

variable {c : Char} {cs rest : List Char} {ps : List Piece} {fault : Fault}

theorem map_ofKind_eq_error {kind : TokenKind} {text : List Char}
    (h : (ofKind kind text).map (·, rest) = .error fault) :
    kind.read? text = none ∧ fault = .invalidNumber text := by
  cases hread : kind.read? text with
  | none =>
      simp only [ofKind, hread, Except.map, Except.error.injEq] at h
      exact ⟨rfl, h.symm⟩
  | some value => simp [ofKind, hread, Except.map] at h

theorem fits_of_number (hstart : startsNumber c cs = true)
    (hread : readNumber? (c :: cs.takeWhile isNumberChar) = none) :
    (Fault.invalidNumber (c :: cs.takeWhile isNumberChar)).Fits (c :: cs) := by
  have hcs : c :: cs = (c :: cs.takeWhile isNumberChar) ++ cs.dropWhile isNumberChar := by
    rw [List.cons_append, List.takeWhile_append_dropWhile]
  obtain ⟨sign, digits, htext, hsign, hfirst, hdigits⟩ := signed_of_startsNumber hstart
  rw [hcs, htext]
  rw [htext] at hread
  refine .invalidNumber hsign hfirst hdigits ?_ ?_
  · intro d hd
    simpa [isNumberChar] using not_of_head?_dropWhile hd
  · by_contra hpoints
    have hsome := isSome_readNumber? hsign hfirst hdigits (Nat.lt_of_not_le hpoints)
    rw [hread] at hsome
    cases hsome

theorem fits_of_cut (h : cut c cs = .error fault) : fault.Fits (c :: cs) := by
  simp only [cut] at h
  split_ifs at h with hblank hsemicolons hopen hclose hquote hcolon hnumber hletter
  · cases (map_ofKind_eq_error h).1
  · cases (map_ofKind_eq_error h).1
  · cases hcut : cutString? cs with
    | none =>
        rw [hcut] at h
        cases h
        subst hquote
        exact .unterminatedString fun before behind hcs => escaped_of_cutString? hcut hcs
    | some cut =>
        rw [hcut] at h
        cases (map_ofKind_eq_error h).1
  · cases (map_ofKind_eq_error h).1
  · obtain ⟨hread, rfl⟩ := map_ofKind_eq_error h
    exact fits_of_number hnumber hread
  · cases (map_ofKind_eq_error h).1
  · cases h
    simp only [startsComment, Bool.and_eq_true, decide_eq_true_eq, not_and] at hsemicolons
    simp only [startsNumber, Bool.or_eq_true, Bool.and_eq_true, decide_eq_true_eq, not_or,
      not_and, Bool.not_eq_true] at hnumber
    refine .unexpectedChar ⟨by simpa using hblank, hopen, hclose, hquote, hcolon, hnumber.1,
      by simpa using hletter, hsemicolons, fun hminus d hd => ?_⟩
    have hnext := hnumber.2 hminus
    rwa [hd] at hnext

theorem read_of_fault (h : scan cs = (ps, some fault)) :
    ∃ c rest, Read cs ps (c :: rest) ∧ cut c rest = .error fault := by
  fun_induction scan cs generalizing ps with
  | case1 => cases h
  | case2 c cs fault' hcut =>
      cases h
      exact ⟨c, cs, .done _, hcut⟩
  | case3 c cs piece rest hcut _ pieces fault? hscan ih =>
      cases h
      obtain ⟨d, rest', hread, hfault⟩ := ih hscan
      exact ⟨d, rest', .cut hcut hread, hfault⟩

theorem scan_of_cut_error (h : cut c cs = .error fault) : scan (c :: cs) = ([], some fault) := by
  unfold scan
  split
  · rename_i h'
    rw [h] at h'
    cases h'
    rfl
  · rename_i h'
    rw [h] at h'
    cases h'

theorem Read.stop (h : Read cs ps rest) : Read (Piece.joined ps) ps [] := by
  have hends : EndsAlike rest [] := ⟨by simp, fun _ => .nil⟩
  have hstop := h.behind hends
  rwa [List.append_nil] at hstop

end Piece

/-- A fault stands at a place of a text: what is in front of it can be scanned, and what is from
there on fits the fault. -/
structure Fault.FirstAt (fault : Fault) (source : String) (offset : Nat) : Prop where
  inBounds : offset < source.utf8ByteSize
  valid : (String.Pos.Raw.mk offset).IsValid source
  clean : ∃ before, slice? source 0 offset = some before ∧
    ∀ origin, ∃ tokens, Token.scan origin (String.ofList before) = .ok tokens
  fits : ∃ behind, slice? source offset source.utf8ByteSize = some behind ∧ fault.Fits behind

theorem Fault.FirstAt.of_read {source : String} {c : Char} {rest : List Char} {ps : List Piece}
    {fault : Fault} (hread : Piece.Read source.toList ps (c :: rest))
    (hcut : Piece.cut c rest = .error fault) :
    fault.FirstAt source (byteSize (Piece.joined ps)) where
  inBounds := by
    have hsize := congrArg byteSize hread.joined
    have hpos := byteSize_pos (List.cons_ne_nil c rest)
    rw [byteSize_append, byteSize_toList] at hsize
    omega
  valid := isValid_of_append hread.joined.symm
  clean := by
    refine ⟨Piece.joined ps, ?_, fun origin => ⟨Piece.tokensFrom 0 ps, ?_⟩⟩
    · have hsource : source.toList = [] ++ Piece.joined ps ++ (c :: rest) := hread.joined.symm
      have hslice := slice?_of_append hsource
      rwa [byteSize_nil, List.nil_append] at hslice
    · refine Token.scan_of_read ?_
      rw [String.toList_ofList]
      exact hread.stop
  fits := ⟨c :: rest, slice?_to_end hread.joined.symm, Piece.fits_of_cut hcut⟩

theorem Token.scan_of_fault {source : String} {c : Char} {rest : List Char} {ps : List Piece}
    {fault : Fault} (hread : Piece.Read source.toList ps (c :: rest))
    (hcut : Piece.cut c rest = .error fault) (origin : String) :
    Token.scan origin source = .error (fault.locate (byteSize (Piece.joined ps)) origin) := by
  rw [Token.scan, hread.scan, Piece.scan_of_cut_error hcut, List.append_nil]

theorem scan_error_at_first_fault (origin source : String) (e : SyntaxError)
    (h : Token.scan origin source = .error e) :
    ∃ (fault : Fault) (offset : Nat),
      e = fault.locate offset origin ∧ fault.FirstAt source offset := by
  rw [Token.scan] at h
  split at h
  · cases h
  · rename_i ps fault hscan
    obtain ⟨c, rest, hread, hcut⟩ := Piece.read_of_fault hscan
    cases h
    exact ⟨fault, byteSize (Piece.joined ps), rfl, .of_read hread hcut⟩

def faultyText : String := "(né \"a\\\"b\" -0) -1.2.3)"

theorem faulty_text_reports_number :
    Token.scan "" faultyText = .error (.invalidNumber "-1.2.3" 16 "") ∧
      ∃ (fault : Fault) (offset : Nat),
        SyntaxError.invalidNumber "-1.2.3" 16 "" = fault.locate offset "" ∧
          fault.FirstAt faultyText offset := by
  have hread : Piece.Read faultyText.toList
      [⟨.token .openParen (.str "("), ['(']⟩, ⟨.token .symbol (.str "né"), ['n', 'é']⟩,
        ⟨.blank, [' ']⟩,
        ⟨.token .string (.str "a\\\"b"), ['"', 'a', '\\', '"', 'b', '"']⟩, ⟨.blank, [' ']⟩,
        ⟨.token .number (.int 0), ['-', '0']⟩, ⟨.token .closeParen (.str ")"), [')']⟩,
        ⟨.blank, [' ']⟩]
      ['-', '1', '.', '2', '.', '3', ')'] := by
    iterate 8 refine .cut rfl ?_
    exact .done _
  have hscan : Token.scan "" faultyText = .error (.invalidNumber "-1.2.3" 16 "") :=
    Token.scan_of_fault hread rfl ""
  exact ⟨hscan, scan_error_at_first_fault _ _ _ hscan⟩

end GestureGraph
