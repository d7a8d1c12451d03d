import GestureGraph.Proofs.Quotation
import GestureGraph.Proofs.Tiling

/-!
Ways to cut. A piece at the start of a text is of one of seven kinds, each with a condition on where
it starts and a rule for where it ends. What is behind a piece only has to end it, so that pieces
are read in the same way before other texts.
-/

namespace GestureGraph

namespace Piece

inductive Cuts (c : Char) (cs : List Char) : Piece → List Char → Prop
  | blank (h : Text.isBlank c = true) : Cuts c cs ⟨.blank, [c]⟩ cs
  | comment (h : startsComment c cs = true) :
      Cuts c cs ⟨.comment, c :: cs.takeWhile (· ≠ '\n')⟩ (cs.dropWhile (· ≠ '\n'))
  | opening (h : c = '(') (value : Value) : Cuts c cs ⟨.token .openParen value, [c]⟩ cs
  | closing (h : c = ')') (value : Value) : Cuts c cs ⟨.token .closeParen value, [c]⟩ cs
  | string {body rest : List Char} (hc : c = '"') (h : cutString? cs = some (body, rest))
      (value : Value) : Cuts c cs ⟨.token .string value, c :: body⟩ rest
  | word {kind : TokenKind}
      (h : kind = .keyword ∧ c = ':' ∨ kind = .symbol ∧ isSymbolStart c = true) (value : Value) :
      Cuts c cs ⟨.token kind value, c :: (cutWord cs).1⟩ (cutWord cs).2
  | number (h : startsNumber c cs = true) (value : Value) :
      Cuts c cs ⟨.token .number value, c :: cs.takeWhile isNumberChar⟩ (cs.dropWhile isNumberChar)

theorem cuts_of_cut {c : Char} {cs rest : List Char} {p : Piece} (h : cut c cs = .ok (p, rest)) :
    Cuts c cs p rest := by
  simp only [cut] at h
  split_ifs at h with hblank hsemicolons hopen hclose hquote hcolon hnumber hletter
  · cases h
    exact .blank hblank
  · cases h
    exact .comment hsemicolons
  · obtain ⟨value, _, rfl, rfl⟩ := map_ofKind_eq_ok h
    exact .opening hopen value
  · obtain ⟨value, _, rfl, rfl⟩ := map_ofKind_eq_ok h
    exact .closing hclose value
  · cases hcut : cutString? cs with
    | none =>
        rw [hcut] at h
        cases h
    | some cut =>
        rw [hcut] at h
        obtain ⟨value, _, rfl, rfl⟩ := map_ofKind_eq_ok h
        exact .string hquote hcut value
  · obtain ⟨value, _, rfl, rfl⟩ := map_ofKind_eq_ok h
    exact .word (Or.inl ⟨rfl, hcolon⟩) value
  · obtain ⟨value, _, rfl, rfl⟩ := map_ofKind_eq_ok h
    exact .number hnumber value
  · obtain ⟨value, _, rfl, rfl⟩ := map_ofKind_eq_ok h
    exact .word (Or.inr ⟨rfl, hletter⟩) value

theorem not_endsWord_of_cutWord {cs as bs : List Char} {c : Char}
    (h : (cutWord cs).1 = as ++ c :: bs) :
    Cursor.endsWord c (bs ++ (cutWord cs).2) = false := by
  induction cs generalizing as with
  | nil => simp [cutWord] at h
  | cons d ds ih =>
      rw [cutWord] at h ⊢
      split
      · rename_i hends
        rw [if_pos hends] at h
        simp at h
      · rename_i hends
        rw [if_neg hends] at h
        cases as with
        | nil =>
            obtain ⟨rfl, hbs⟩ := List.cons.inj h
            rw [← hbs, append_cutWord]
            exact Bool.eq_false_iff.mpr hends
        | cons a as => exact ih (List.cons.inj h).2

theorem endsWord_eq_false_iff {c : Char} {cs : List Char} : Cursor.endsWord c cs = false ↔
    Text.isBlank c = false ∧ c ≠ '(' ∧ c ≠ ')' ∧ startsComment c cs = false := by
  simp [Cursor.endsWord, and_assoc]

theorem plain_of_startsWord {kind : TokenKind} {c : Char}
    (h : kind = .keyword ∧ c = ':' ∨ kind = .symbol ∧ isSymbolStart c = true) :
    c ≠ '(' ∧ c ≠ ')' ∧ c ≠ ';' := by
  rcases h with ⟨_, rfl⟩ | ⟨_, h⟩
  · decide
  · exact ⟨ne_of_isSymbolStart h (by decide), ne_of_isSymbolStart h (by decide),
      ne_of_isSymbolStart h (by decide)⟩

theorem plain_of_mem_number {c d : Char} {cs : List Char} (h : startsNumber c cs = true)
    (hd : d ∈ c :: cs.takeWhile isNumberChar) : d ≠ '(' ∧ d ≠ ')' ∧ d ≠ ';' := by
  have hchar : d = '.' ∨ d = '-' ∨ Decimal.isDigit d = true := by
    rcases List.mem_cons.mp hd with rfl | hd
    · simp only [startsNumber, Bool.or_eq_true, Bool.and_eq_true, decide_eq_true_eq] at h
      exact Or.inr (h.symm.imp (·.1) id)
    · have hnumber := List.mem_takeWhile_imp hd
      simp only [isNumberChar, Bool.or_eq_true, decide_eq_true_eq] at hnumber
      exact hnumber.symm.imp id Or.inr
  rcases hchar with rfl | hchar
  · decide
  · obtain ⟨_, hsemicolon, hopen, hclose, _⟩ := plain_of_startsNumber hchar
    exact ⟨hopen, hclose, hsemicolon⟩

theorem cutWord_of_wordEnds {rest : List Char} (h : WordEnds rest) : cutWord rest = ([], rest) := by
  cases h with
  | nil => rfl
  | blank cs hc => simp [cutWord, hc]
  | opening cs => rfl
  | closing cs => rfl
  | comment cs => rfl

theorem startsComment_append {c : Char} {cs rest rest' : List Char}
    (hsemicolon : rest'.head? = some ';' → rest.head? = some ';')
    (h : startsComment c (cs ++ rest) = false) : startsComment c (cs ++ rest') = false := by
  cases cs with
  | nil =>
      rw [startsComment, Bool.and_eq_false_iff, decide_eq_false_iff_not,
        decide_eq_false_iff_not] at h ⊢
      exact h.imp id fun hne heq => hne (hsemicolon heq)
  | cons d ds => exact h

theorem cutWord_append_of_wordEnds {cs rest' : List Char} (hends : WordEnds rest')
    (hsemicolon : rest'.head? = some ';' → (cutWord cs).2.head? = some ';') :
    cutWord ((cutWord cs).1 ++ rest') = ((cutWord cs).1, rest') := by
  induction cs with
  | nil => exact cutWord_of_wordEnds hends
  | cons c cs ih =>
      rw [cutWord] at hsemicolon ⊢
      split
      · exact cutWord_of_wordEnds hends
      · rename_i hplain
        rw [if_neg hplain] at hsemicolon
        simp only [Bool.or_eq_true, decide_eq_true_eq, not_or, Bool.not_eq_true] at hplain
        obtain ⟨⟨⟨hblank, hopen⟩, hclose⟩, hcomment⟩ := hplain
        rw [← append_cutWord cs] at hcomment
        have hcomment' := startsComment_append hsemicolon hcomment
        simp [cutWord, hblank, hopen, hclose, hcomment', ih hsemicolon]

theorem plain_of_single {c : Char} {cs rest : List Char} {p : Piece}
    (h : cut c cs = .ok (p, rest)) (htext : p.text = [c]) : c ≠ ';' ∧ c ≠ '-' := by
  cases cuts_of_cut h with
  | blank hc =>
      constructor
      · rintro rfl
        cases hc
      · rintro rfl
        cases hc
  | comment hc =>
      simp only [startsComment, Bool.and_eq_true, decide_eq_true_eq] at hc
      obtain ⟨ds, rfl⟩ := List.head?_eq_some_iff.mp hc.2
      simp at htext
  | opening hc value => exact hc ▸ by decide
  | closing hc value => exact hc ▸ by decide
  | string hc hcut value => exact hc ▸ by decide
  | word hc value =>
      rcases hc with ⟨_, rfl⟩ | ⟨_, hc⟩
      · decide
      · exact ⟨ne_of_isSymbolStart hc (by decide), ne_of_isSymbolStart hc (by decide)⟩
  | number hc value =>
      refine ⟨(plain_of_mem_number hc List.mem_cons_self).2.2, ?_⟩
      rintro rfl
      cases cs with
      | nil => cases hc
      | cons d ds =>
          have hd : isNumberChar d = true := isNumberChar_of_isDigit hc
          simp [hd] at htext

theorem tail_of_map_ofKind {kind : TokenKind} {c : Char} {text tail mid rest : List Char}
    {p : Piece} (h : (ofKind kind (c :: text)).map (·, mid) = .ok (p, rest))
    (htext : p.text = c :: tail) :
    text = tail ∧ mid = rest ∧
      ∀ rest' : List Char, (ofKind kind (c :: text)).map (·, rest') = .ok (p, rest') := by
  obtain ⟨value, hread, rfl, rfl⟩ := map_ofKind_eq_ok h
  refine ⟨(List.cons.inj htext).2, rfl, fun rest' => ?_⟩
  rw [ofKind, hread]
  rfl

theorem text_of_cut {c : Char} {cs rest : List Char} {p : Piece}
    (h : cut c cs = .ok (p, rest)) : ∃ tail, p.text = c :: tail ∧ cs = tail ++ rest := by
  obtain ⟨hne, happ⟩ := cut_append h
  obtain ⟨d, tail, hp⟩ := List.exists_cons_of_ne_nil hne
  rw [hp] at happ
  obtain ⟨rfl, hcs⟩ := List.cons.inj happ
  exact ⟨tail, hp, hcs.symm⟩

/-- What is behind its first character decides on the kind of a piece only where it belongs to the
piece. -/
theorem starts_append {c : Char} {cs rest tail : List Char} {p : Piece}
    (h : cut c cs = .ok (p, rest)) (htext : p.text = c :: tail) (rest' : List Char) :
    startsComment c (tail ++ rest') = startsComment c cs ∧
      startsNumber c (tail ++ rest') = startsNumber c cs := by
  obtain ⟨_, htail, rfl⟩ := text_of_cut h
  obtain ⟨_, rfl⟩ := List.cons.inj (htext.symm.trans htail)
  cases tail with
  | nil =>
      obtain ⟨hsemicolon, hminus⟩ := plain_of_single h htext
      simp [startsComment, startsNumber, hsemicolon, hminus]
  | cons d tail => exact ⟨rfl, rfl⟩

structure EndsAlike (rest rest' : List Char) : Prop where
  head : ∀ c ∈ rest'.head?, c = '\n' ∨ rest.head? = some c
  word : WordEnds rest → WordEnds rest'

theorem EndsAlike.semicolon {rest rest' : List Char} (h : EndsAlike rest rest')
    (hhead : rest'.head? = some ';') : rest.head? = some ';' :=
  (h.head ';' hhead).resolve_left (by decide)

theorem EndsAlike.span {p : Char → Bool} (hline : p '\n' = false) {cs rest' : List Char}
    (h : EndsAlike (cs.dropWhile p) rest') :
    (cs.takeWhile p ++ rest').takeWhile p = cs.takeWhile p ∧
      (cs.takeWhile p ++ rest').dropWhile p = rest' := by
  refine span_append (fun c hc => List.mem_takeWhile_imp hc) fun c hc => ?_
  rcases h.head c hc with rfl | hc
  · exact hline
  · exact not_of_head?_dropWhile hc

theorem cut_of_endsAlike {c : Char} {cs rest tail rest' : List Char} {p : Piece}
    (h : cut c cs = .ok (p, rest)) (htext : p.text = c :: tail) (hends : EndsAlike rest rest') :
    cut c (tail ++ rest') = .ok (p, rest') := by
  obtain ⟨hcomment, hnumber⟩ := starts_append h htext rest'
  simp only [cut, hcomment, hnumber] at h ⊢
  split_ifs at h ⊢ with hblank hsemicolons hopen hclose hquote hcolon hdigit hletter
  · cases h
    cases htext
    rfl
  · cases h
    cases htext
    obtain ⟨htake, hdrop⟩ := hends.span (by decide)
    rw [htake, hdrop]
  · obtain ⟨rfl, rfl, htoken⟩ := tail_of_map_ofKind h htext
    exact htoken rest'
  · obtain ⟨rfl, rfl, htoken⟩ := tail_of_map_ofKind h htext
    exact htoken rest'
  · cases hcut : cutString? cs with
    | none =>
        rw [hcut] at h
        cases h
    | some cut =>
        rw [hcut] at h
        obtain ⟨rfl, rfl, htoken⟩ := tail_of_map_ofKind h htext
        rw [cutString?_append hcut]
        exact htoken rest'
  · obtain ⟨rfl, rfl, htoken⟩ := tail_of_map_ofKind h htext
    rw [cutWord_append_of_wordEnds (hends.word (wordEnds_cutWord cs)) hends.semicolon]
    exact htoken rest'
  · obtain ⟨rfl, rfl, htoken⟩ := tail_of_map_ofKind h htext
    obtain ⟨htake, hdrop⟩ := hends.span (by decide)
    rw [htake, hdrop]
    exact htoken rest'
  · obtain ⟨rfl, rfl, htoken⟩ := tail_of_map_ofKind h htext
    rw [cutWord_append_of_wordEnds (hends.word (wordEnds_cutWord cs)) hends.semicolon]
    exact htoken rest'

theorem EndsAlike.behind {cs rest rest' : List Char} {ps : List Piece} (h : EndsAlike rest rest')
    (hread : Read cs ps rest) : EndsAlike cs (joined ps ++ rest') := by
  cases hread with
  | done cs => exact h
  | @cut c cs mid rest p ps hcut _ =>
      obtain ⟨tail, htext, _⟩ := text_of_cut hcut
      rw [joined_cons, List.append_assoc, htext, List.cons_append]
      refine ⟨fun d hd => Or.inr hd, fun hends => ?_⟩
      cases hends with
      | blank _ hc => exact .blank _ hc
      | opening _ => exact .opening _
      | closing _ => exact .closing _
      | comment cs =>
          have hcomment := (starts_append hcut htext (joined ps ++ rest')).1.trans (rfl : _ = true)
          simp only [startsComment, Bool.and_eq_true, decide_eq_true_eq] at hcomment
          obtain ⟨ds, hds⟩ := List.head?_eq_some_iff.mp hcomment.2
          rw [hds]
          exact .comment ds

theorem Read.behind {cs rest rest' : List Char} {ps : List Piece} (h : Read cs ps rest)
    (hends : EndsAlike rest rest') : Read (Piece.joined ps ++ rest') ps rest' := by
  induction h with
  | done cs => exact .done rest'
  | @cut c cs mid rest p ps hcut hread ih =>
      obtain ⟨tail, htext, _⟩ := text_of_cut hcut
      rw [joined_cons, List.append_assoc, htext, List.cons_append]
      exact .cut (cut_of_endsAlike hcut htext (hends.behind hread)) (ih hends)

end Piece

end GestureGraph
