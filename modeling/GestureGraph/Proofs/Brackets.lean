import GestureGraph.Proofs.Cuts
import GestureGraph.Proofs.Lines
import GestureGraph.Session

namespace GestureGraph

def TokenKind.bracket? : TokenKind → Option Char
  | .openParen => some '('
  | .closeParen => some ')'
  | _ => none

def brackets (tokens : List Token) : List Char := tokens.filterMap (·.kind.bracket?)

theorem brackets_append (ts us : List Token) : brackets (ts ++ us) = brackets ts ++ brackets us :=
  List.filterMap_append

theorem brackets_cons (t : Token) (ts : List Token) :
    brackets (t :: ts) = t.kind.bracket?.toList ++ brackets ts := by
  rw [brackets, List.filterMap_cons]
  cases t.kind.bracket? <;> rfl

namespace Forest

theorem bracket?_atom {t : Token} (h : t.kind.isParen = false) : t.kind.bracket? = none := by
  cases hk : t.kind <;> simp_all [TokenKind.isParen, TokenKind.bracket?]

theorem count_brackets (f : Forest) :
    (brackets f.flatten).count '(' = (brackets f.flatten).count ')' := by
  induction f with
  | nil => rfl
  | atom t ht rest ih => simpa [flatten, brackets_cons, bracket?_atom ht] using ih
  | group opening ho inner closing hc rest ihInner ihRest =>
      have hgroup : brackets (group opening ho inner closing hc rest).flatten =
          '(' :: (brackets inner.flatten ++ ')' :: brackets rest.flatten) := by
        simp [flatten, brackets_cons, brackets_append, ho, hc, TokenKind.bracket?]
      rw [hgroup, List.count_cons_self, List.count_append, List.count_cons_of_ne (by decide),
        List.count_cons_of_ne (by decide), List.count_append, List.count_cons_self, ihInner, ihRest]
      rfl

end Forest

namespace Piece

def aside (p : Piece) : List Char :=
  match p.kind with
  | .comment => p.text
  | .token .string _ => p.text
  | _ => []

theorem not_mem_word {paren c : Char} {cs : List Char} {kind : TokenKind}
    (hparen : paren = '(' ∨ paren = ')')
    (hc : kind = .keyword ∧ c = ':' ∨ kind = .symbol ∧ isSymbolStart c = true) :
    paren ∉ c :: (cutWord cs).1 := by
  obtain ⟨hopen, hclose, _⟩ := plain_of_startsWord hc
  intro hmem
  rcases List.mem_cons.mp hmem with rfl | hmem
  · exact hparen.elim hopen hclose
  · obtain ⟨as, bs, heq⟩ := List.append_of_mem hmem
    obtain ⟨_, hopen, hclose, _⟩ := endsWord_eq_false_iff.mp (not_endsWord_of_cutWord heq)
    exact hparen.elim hopen hclose

theorem count_of_cuts {paren c : Char} {cs rest : List Char} {p : Piece} (h : Cuts c cs p rest)
    (hparen : paren = '(' ∨ paren = ')') (n : Nat) :
    p.text.count paren = (brackets (tokensFrom n [p])).count paren + p.aside.count paren := by
  cases h with
  | blank hc =>
      have hne : c ≠ paren := by
        rintro rfl
        rcases hparen with rfl | rfl <;> cases hc
      simp [brackets, tokensFrom, aside, hne]
  | comment hc => simp [brackets, tokensFrom, aside]
  | opening hc => simp [brackets, tokensFrom, aside, TokenKind.bracket?, hc]
  | closing hc => simp [brackets, tokensFrom, aside, TokenKind.bracket?, hc]
  | string hc hcut value => simp [brackets, tokensFrom, aside, TokenKind.bracket?]
  | word hc value =>
      rw [List.count_eq_zero.mpr (not_mem_word hparen hc)]
      rcases hc with ⟨rfl, _⟩ | ⟨rfl, _⟩ <;> rfl
  | number hc value =>
      have hnot : paren ∉ c :: cs.takeWhile isNumberChar := fun hmem =>
        hparen.elim (plain_of_mem_number hc hmem).1 (plain_of_mem_number hc hmem).2.1
      rw [List.count_eq_zero.mpr hnot]
      rfl

theorem count_of_read {paren : Char} {cs rest : List Char} {ps : List Piece} (h : Read cs ps rest)
    (hparen : paren = '(' ∨ paren = ')') (n : Nat) :
    (joined ps).count paren =
      (brackets (tokensFrom n ps)).count paren + (ps.flatMap aside).count paren := by
  induction h generalizing n with
  | done cs => rfl
  | @cut c cs mid rest p ps hcut _ ih =>
      have hp := count_of_cuts (cuts_of_cut hcut) hparen n
      have hrest := ih (n + byteSize p.text)
      rw [tokensFrom_cons, brackets_append, joined_cons, List.flatMap_cons, List.count_append,
        List.count_append, List.count_append]
      omega

end Piece

def asides (source : String) : List Char := (Piece.scan source.toList).1.flatMap Piece.aside

theorem asides_of_read {source : String} {ps : List Piece} (h : Piece.Read source.toList ps []) :
    asides source = ps.flatMap Piece.aside := by
  rw [asides, h.scan_all]

theorem count_of_scan {paren : Char} {origin source : String} {tokens : List Token}
    (h : Token.scan origin source = .ok tokens) (hparen : paren = '(' ∨ paren = ')') :
    source.toList.count paren = (brackets tokens).count paren + (asides source).count paren := by
  obtain ⟨ps, hread, rfl⟩ := Token.read_of_scan h
  have hjoined := hread.joined
  rw [List.append_nil] at hjoined
  rw [← hjoined, Piece.count_of_read hread hparen 0, asides_of_read hread]

namespace Program

theorem closeGroup_ne_unclosed {echo shown : String} {items : List Value} :
    closeGroup echo items ≠ .error (.unclosedList shown) := by
  intro h
  cases items with
  | nil => cases h
  | cons head rest =>
      simp only [closeGroup] at h
      split at h
      · cases h
      · split at h
        · cases h
        · cases h

theorem opens_of_unclosed {limit : Nat} {echo shown : String} {items : List Value}
    {outer : List (List Value)} {ts : List Token}
    (h : parseIn limit echo items outer ts = .error (.unclosedList shown)) :
    (brackets ts).count ')' < outer.length + (brackets ts).count '(' := by
  induction ts generalizing items outer with
  | nil =>
      cases outer with
      | nil => cases h
      | cons parent outer => exact Nat.succ_pos _
  | cons t ts ih =>
      by_cases hopen : t.kind = .openParen
      · rw [parseIn_open hopen] at h
        split at h
        · cases h
        · have hrest := ih h
          rw [List.length_cons] at hrest
          simp [brackets_cons, hopen, TokenKind.bracket?]
          omega
      · by_cases hclose : t.kind = .closeParen
        · cases outer with
          | nil => simp [parseIn, hclose] at h
          | cons parent outer =>
              cases hgroup : closeGroup echo items.reverse with
              | error e =>
                  simp only [parseIn, hclose, hgroup, Except.error.injEq] at h
                  exact absurd (h ▸ hgroup) closeGroup_ne_unclosed
              | ok v? =>
                  rw [parseIn_close hclose hgroup] at h
                  have hrest := ih h
                  simp [brackets_cons, hclose, TokenKind.bracket?]
                  omega
        · have hatom : t.kind.isParen = false := by
            rw [Bool.eq_false_iff]
            exact fun hparen => (TokenKind.isParen_iff.mp hparen).elim hopen hclose
          rw [parseIn_atom hatom] at h
          simpa [brackets_cons, Forest.bracket?_atom hatom] using ih h

theorem opensMore_iff {axioms : Axioms} {origin source : String} {program : Program}
    (h : read axioms origin source = .ok program) :
    opensMore source = true ↔ (asides source).count ')' < (asides source).count '(' := by
  obtain ⟨_, tokens, hscan, _, hparse, _⟩ := read_eq_ok_iff.mp h
  obtain ⟨f, rfl, _⟩ := forest_of_parse hparse
  have hbalanced := f.count_brackets
  rw [opensMore, decide_eq_true_eq, count_of_scan hscan (Or.inl rfl),
    count_of_scan hscan (Or.inr rfl)]
  omega

end Program

end GestureGraph
