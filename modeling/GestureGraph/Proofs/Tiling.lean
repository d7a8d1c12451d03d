import GestureGraph.Proofs.Cursor
import Mathlib.Data.List.TakeWhile

namespace GestureGraph

/-- Blanks and comments. A comment runs up to the end of its line, which the text behind the gap may
also bring. -/
inductive Gap (after : List Char) : List Char → Prop
  | nil : Gap after []
  | blank {c : Char} {cs : List Char} (hc : Text.isBlank c = true) (rest : Gap after cs) :
      Gap after (c :: cs)
  | comment {body cs : List Char} (hbody : '\n' ∉ body)
      (hend : ∀ c ∈ (cs ++ after).head?, c = '\n') (rest : Gap after cs) :
      Gap after (';' :: ';' :: (body ++ cs))

inductive Reads : TokenKind → List Char → Value → Prop
  | opening : Reads .openParen ['('] (.str "(")
  | closing : Reads .closeParen [')'] (.str ")")
  | string (body : List Char) : Reads .string ('"' :: (body ++ ['"'])) (.str (String.ofList body))
  | keyword (word : List Char) : Reads .keyword (':' :: word) (.str (String.ofList (':' :: word)))
  | symbol (c : Char) (word : List Char) :
      Reads .symbol (c :: word) (.str (String.ofList (Text.composed (c :: word))))
  | number {sign digits : List Char} {value : Value} (hsign : sign = [] ∨ sign = ['-'])
      (hne : digits ≠ []) (hdigits : ∀ c ∈ digits, Decimal.isDigit c = true ∨ c = '.')
      (hvalue : readNumber? (sign ++ digits) = some value) : Reads .number (sign ++ digits) value

inductive WordEnds : List Char → Prop
  | nil : WordEnds []
  | blank {c : Char} (cs : List Char) (hc : Text.isBlank c = true) : WordEnds (c :: cs)
  | opening (cs : List Char) : WordEnds ('(' :: cs)
  | closing (cs : List Char) : WordEnds (')' :: cs)
  | comment (cs : List Char) : WordEnds (';' :: ';' :: cs)

def Leaves : TokenKind → List Char → Prop
  | .symbol, after => WordEnds after
  | .keyword, after => WordEnds after
  | .number, after => ∀ c ∈ after.head?, Decimal.isDigit c = false ∧ c ≠ '.'
  | _, _ => True

theorem Reads.ne_nil {kind : TokenKind} {text : List Char} {value : Value}
    (h : Reads kind text value) : text ≠ [] := by
  cases h with
  | number _ hne _ _ => exact List.append_ne_nil_of_right_ne_nil _ hne
  | _ => exact List.cons_ne_nil _ _

namespace Piece

theorem not_of_head?_dropWhile {p : Char → Bool} {cs : List Char} {c : Char}
    (h : c ∈ (cs.dropWhile p).head?) : p c = false := by
  have hhead := List.head?_dropWhile_not p cs
  rwa [h] at hhead

theorem wordEnds_cutWord (cs : List Char) : WordEnds (cutWord cs).2 := by
  induction cs with
  | nil => exact .nil
  | cons c cs ih =>
      rw [cutWord]
      split
      · rename_i hc
        simp only [Bool.or_eq_true, decide_eq_true_eq, startsComment, Bool.and_eq_true] at hc
        obtain ((hblank | rfl) | rfl) | ⟨rfl, hnext⟩ := hc
        · exact .blank cs hblank
        · exact .opening cs
        · exact .closing cs
        · obtain ⟨cs, rfl⟩ := List.head?_eq_some_iff.mp hnext
          exact .comment cs
      · exact ih

theorem cutString?_ends {cs body rest : List Char} (h : cutString? cs = some (body, rest)) :
    ∃ inner, body = inner ++ ['"'] := by
  have hsource : (String.ofList cs).toList = [] ++ cs := String.toList_ofList
  have hquote := Cursor.findsQuote hsource
  rw [h] at hquote
  obtain ⟨inner, hbody, _⟩ := hquote
  exact ⟨inner, hbody⟩

inductive Shape (rest : List Char) : Piece → Prop
  | blank {c : Char} (hc : Text.isBlank c = true) : Shape rest ⟨.blank, [c]⟩
  | comment {body : List Char} (hbody : '\n' ∉ body) (hend : ∀ c ∈ rest.head?, c = '\n') :
      Shape rest ⟨.comment, ';' :: ';' :: body⟩
  | token {kind : TokenKind} {text : List Char} {value : Value} (hread : Reads kind text value)
      (hrest : Leaves kind rest) : Shape rest ⟨.token kind value, text⟩

theorem map_ofKind_eq_ok {kind : TokenKind} {text rest rest' : List Char} {p : Piece}
    (h : (ofKind kind text).map (·, rest) = .ok (p, rest')) :
    ∃ value, kind.read? text = some value ∧ p = ⟨.token kind value, text⟩ ∧ rest' = rest := by
  cases hread : kind.read? text with
  | none => simp [ofKind, hread, Except.map] at h
  | some value =>
      simp only [ofKind, hread, Except.map, Except.ok.injEq, Prod.mk.injEq] at h
      exact ⟨value, rfl, h.1.symm, h.2.symm⟩

theorem shape_of_comment {c : Char} {cs : List Char} (h : startsComment c cs = true) :
    Shape (cs.dropWhile (· ≠ '\n')) ⟨.comment, c :: cs.takeWhile (· ≠ '\n')⟩ := by
  simp only [startsComment, Bool.and_eq_true, decide_eq_true_eq] at h
  obtain ⟨rfl, hnext⟩ := h
  obtain ⟨cs, rfl⟩ := List.head?_eq_some_iff.mp hnext
  rw [List.takeWhile_cons_of_pos (by decide), List.dropWhile_cons_of_pos (by decide)]
  refine .comment ?_ ?_
  · intro hm
    simpa using List.mem_takeWhile_imp hm
  · intro c hc
    simpa using not_of_head?_dropWhile hc

theorem signed_of_startsNumber {c : Char} {cs : List Char} (h : startsNumber c cs = true) :
    ∃ sign digits, c :: cs.takeWhile isNumberChar = sign ++ digits ∧
      (sign = [] ∨ sign = ['-']) ∧ (∃ d ∈ digits.head?, Decimal.isDigit d = true) ∧
      ∀ d ∈ digits, Decimal.isDigit d = true ∨ d = '.' := by
  have hall : ∀ d ∈ cs.takeWhile isNumberChar, Decimal.isDigit d = true ∨ d = '.' := by
    intro d hd
    simpa [isNumberChar] using List.mem_takeWhile_imp hd
  by_cases hdigit : Decimal.isDigit c = true
  · exact ⟨[], c :: cs.takeWhile isNumberChar, rfl, .inl rfl, ⟨c, rfl, hdigit⟩,
      List.forall_mem_cons.mpr ⟨.inl hdigit, hall⟩⟩
  · simp only [startsNumber, hdigit, Bool.false_or, Bool.and_eq_true, decide_eq_true_eq] at h
    obtain ⟨rfl, hnext⟩ := h
    refine ⟨['-'], cs.takeWhile isNumberChar, rfl, .inr rfl, ?_, hall⟩
    cases cs with
    | nil => cases hnext
    | cons d ds =>
        rw [List.takeWhile_cons_of_pos (isNumberChar_of_isDigit hnext)]
        exact ⟨d, rfl, hnext⟩

theorem reads_number {c : Char} {cs : List Char} {value : Value}
    (hc : startsNumber c cs = true)
    (h : readNumber? (c :: cs.takeWhile isNumberChar) = some value) :
    Reads .number (c :: cs.takeWhile isNumberChar) value := by
  obtain ⟨sign, digits, htext, hsign, ⟨d, hd, _⟩, hdigits⟩ := signed_of_startsNumber hc
  rw [htext] at h ⊢
  refine .number hsign ?_ hdigits h
  rintro rfl
  cases hd

theorem shape_of_cut {c : Char} {cs rest : List Char} {p : Piece} (h : cut c cs = .ok (p, rest)) :
    Shape rest p := by
  simp only [cut] at h
  split at h
  · cases h
    exact .blank ‹_›
  split at h
  · cases h
    exact shape_of_comment ‹_›
  split at h
  · rename_i hc
    subst hc
    obtain ⟨value, hread, rfl, rfl⟩ := map_ofKind_eq_ok h
    cases hread
    exact .token .opening trivial
  split at h
  · rename_i hc
    subst hc
    obtain ⟨value, hread, rfl, rfl⟩ := map_ofKind_eq_ok h
    cases hread
    exact .token .closing trivial
  split at h
  · rename_i hc
    subst hc
    split at h
    · rename_i body rest' hcut
      obtain ⟨value, hread, rfl, rfl⟩ := map_ofKind_eq_ok h
      obtain ⟨inner, rfl⟩ := cutString?_ends hcut
      have hvalue : value = .str (String.ofList inner) := by
        simpa [TokenKind.read?] using hread.symm
      rw [hvalue]
      exact .token (.string inner) trivial
    · cases h
  split at h
  · rename_i hc
    subst hc
    obtain ⟨value, hread, rfl, rfl⟩ := map_ofKind_eq_ok h
    cases hread
    exact .token (.keyword _) (wordEnds_cutWord cs)
  split at h
  · obtain ⟨value, hread, rfl, rfl⟩ := map_ofKind_eq_ok h
    refine .token (reads_number ‹_› hread) ?_
    intro d hd
    simpa [isNumberChar] using not_of_head?_dropWhile hd
  split at h
  · obtain ⟨value, hread, rfl, rfl⟩ := map_ofKind_eq_ok h
    cases hread
    exact .token (.symbol _ _) (wordEnds_cutWord cs)
  · cases h

end Piece

inductive Tiling : Nat → List Char → List Token → Prop
  | last {offset : Nat} {gap : List Char} (hgap : Gap [] gap) : Tiling offset gap []
  | token {offset : Nat} {gap text after : List Char} {kind : TokenKind} {value : Value}
      {tokens : List Token} (hgap : Gap (text ++ after) gap) (hread : Reads kind text value)
      (hafter : Leaves kind after)
      (rest : Tiling (offset + byteSize (gap ++ text)) after tokens) :
      Tiling offset (gap ++ (text ++ after))
        (⟨kind, value, offset + byteSize gap, offset + byteSize (gap ++ text)⟩ :: tokens)

theorem Tiling.skip {offset : Nat} {skipped cs : List Char} {tokens : List Token}
    (h : Tiling (offset + byteSize skipped) cs tokens)
    (hskip : ∀ gap after, gap ++ after = cs → Gap after gap → Gap after (skipped ++ gap)) :
    Tiling offset (skipped ++ cs) tokens := by
  -- What is skipped joins the gap that comes next.
  cases h with
  | last hgap => exact .last (hskip _ [] (List.append_nil _) hgap)
  | token hgap hread hafter rest =>
      have hgap' := hskip _ _ rfl hgap
      rw [Nat.add_assoc, ← byteSize_append, ← List.append_assoc] at rest
      have htoken := Tiling.token hgap' hread hafter rest
      simpa [Nat.add_assoc] using htoken

theorem Piece.Shape.tiling {p : Piece} {rest : List Char} {offset : Nat} {pieces : List Piece}
    (hp : Shape rest p) (h : Tiling (offset + byteSize p.text) rest
      (tokensFrom (offset + byteSize p.text) pieces)) :
    Tiling offset (p.text ++ rest) (tokensFrom offset (p :: pieces)) := by
  cases hp with
  | blank hc => exact h.skip fun gap after _ hgap => .blank hc hgap
  | comment hbody hend =>
      refine h.skip fun gap after hrest hgap => .comment hbody ?_ hgap
      rwa [hrest]
  | token hread hrest => exact .token .nil hread hrest h

theorem tiling_of_scan {cs : List Char} {pieces : List Piece}
    (h : Piece.scan cs = (pieces, none)) (offset : Nat) :
    Tiling offset cs (Piece.tokensFrom offset pieces) := by
  fun_induction Piece.scan cs generalizing pieces offset with
  | case1 =>
      obtain ⟨rfl, -⟩ := Prod.mk.inj h
      exact .last .nil
  | case2 c cs fault hcut => cases h
  | case3 c cs piece rest hcut _ pieces' fault? hscan ih =>
      obtain ⟨rfl, rfl⟩ := Prod.mk.inj h
      rw [← (Piece.cut_append hcut).2]
      exact (Piece.shape_of_cut hcut).tiling (ih hscan _)

def gapsFrom (start stop : Nat) : List Token → List (Nat × Nat)
  | [] => [(start, stop)]
  | t :: ts => (start, t.start) :: gapsFrom t.stop stop ts

structure Token.StandsIn (source : String) (t : Token) : Prop where
  nonempty : t.start < t.stop
  inBounds : t.stop ≤ source.utf8ByteSize
  startValid : (String.Pos.Raw.mk t.start).IsValid source
  stopValid : (String.Pos.Raw.mk t.stop).IsValid source
  reads : ∃ text, slice? source t.start t.stop = some text ∧ Reads t.kind text t.value
  leaves : ∃ after, slice? source t.stop source.utf8ByteSize = some after ∧ Leaves t.kind after

def GapIn (source : String) (start stop : Nat) : Prop :=
  ∃ text after, slice? source start stop = some text ∧
    slice? source stop source.utf8ByteSize = some after ∧ Gap after text

structure Tiles (source : String) (start : Nat) (tokens : List Token) : Prop where
  stands : ∀ t ∈ tokens, t.StandsIn source
  behind : ∀ t ∈ tokens, start ≤ t.start
  ordered : tokens.Pairwise fun t u => t.start < u.start ∧ t.stop ≤ u.start
  gaps : ∀ gap ∈ gapsFrom start source.utf8ByteSize tokens, GapIn source gap.1 gap.2

theorem Token.StandsIn.of_append {source : String} {pre text after : List Char}
    {kind : TokenKind} {value : Value} (h : source.toList = pre ++ text ++ after)
    (hread : Reads kind text value) (hafter : Leaves kind after) :
    Token.StandsIn source ⟨kind, value, byteSize pre, byteSize (pre ++ text)⟩ where
  nonempty := by
    have hpos := byteSize_pos hread.ne_nil
    show byteSize pre < byteSize (pre ++ text)
    rw [byteSize_append]
    omega
  inBounds := byteSize_le_of_append h
  startValid := isValid_of_append (h.trans (List.append_assoc ..))
  stopValid := isValid_of_append h
  reads := ⟨text, slice?_of_append h, hread⟩
  leaves := ⟨after, slice?_to_end h, hafter⟩

theorem GapIn.of_append {source : String} {pre gap after : List Char}
    (h : source.toList = pre ++ gap ++ after) (hgap : Gap after gap) :
    GapIn source (byteSize pre) (byteSize (pre ++ gap)) :=
  ⟨gap, after, slice?_of_append h, slice?_to_end h, hgap⟩

theorem Tiles.cons {source : String} {start : Nat} {t : Token} {tokens : List Token}
    (hgap : GapIn source start t.start) (hstart : start ≤ t.start) (ht : t.StandsIn source)
    (h : Tiles source t.stop tokens) : Tiles source start (t :: tokens) where
  stands := List.forall_mem_cons.mpr ⟨ht, h.stands⟩
  behind := by
    refine List.forall_mem_cons.mpr ⟨hstart, fun u hu => ?_⟩
    have hu' := h.behind u hu
    have hne := ht.nonempty
    omega
  ordered := by
    refine List.pairwise_cons.mpr ⟨fun u hu => ?_, h.ordered⟩
    exact ⟨Nat.lt_of_lt_of_le ht.nonempty (h.behind u hu), h.behind u hu⟩
  gaps := List.forall_mem_cons.mpr ⟨hgap, h.gaps⟩

theorem Tiling.tiles {source : String} {offset : Nat} {pre cs : List Char} {tokens : List Token}
    (h : Tiling offset cs tokens) (hoffset : offset = byteSize pre)
    (hsource : source.toList = pre ++ cs) : Tiles source offset tokens := by
  induction h generalizing pre with
  | last hgap =>
      subst hoffset
      refine ⟨by simp, by simp, .nil, ?_⟩
      have hend := GapIn.of_append (hsource.trans (List.append_nil _).symm) hgap
      rw [← hsource, byteSize_toList] at hend
      simpa [gapsFrom] using hend
  | token hgap hread hafter rest ih =>
      subst hoffset
      rename_i gap text after kind value tokens
      have hbefore : source.toList = pre ++ gap ++ (text ++ after) := by
        rw [hsource, List.append_assoc]
      have hbehind : source.toList = pre ++ gap ++ text ++ after := by
        rw [hbefore, ← List.append_assoc]
      have hgap' := GapIn.of_append hbefore hgap
      have htoken := Token.StandsIn.of_append hbehind hread hafter
      have hstop : byteSize pre + byteSize (gap ++ text) = byteSize (pre ++ gap ++ text) := by
        rw [List.append_assoc, byteSize_append pre]
      -- The offsets of the tiling are sums, those of the spans sizes of prefixes.
      rw [byteSize_append pre gap] at hgap' htoken
      rw [← hstop] at htoken
      exact Tiles.cons hgap' (Nat.le_add_right _ _) htoken (ih hstop hbehind)

theorem tokens_tile_source (origin source : String) :
    Cursor.scan origin source = some (Token.scan origin source) ∧
      ∀ tokens, Token.scan origin source = .ok tokens → Tiles source 0 tokens := by
  refine ⟨Cursor.scan_eq origin source, ?_⟩
  intro tokens h
  rw [Token.scan] at h
  split at h
  · rename_i pieces hscan
    cases h
    exact (tiling_of_scan hscan 0).tiles byteSize_nil.symm rfl
  · cases h

def mixedText : String := "(né :β \"λ\") -7;; fin"

def mixedTokens : List Token :=
  [⟨.openParen, .str "(", 0, 1⟩, ⟨.symbol, .str "né", 1, 4⟩, ⟨.keyword, .str ":β", 5, 8⟩,
    ⟨.string, .str "λ", 9, 13⟩, ⟨.closeParen, .str ")", 13, 14⟩, ⟨.number, .int (-7), 15, 17⟩]

theorem mixed_tokens_tile_text :
    Cursor.scan "" mixedText = some (.ok mixedTokens) ∧ Tiles mixedText 0 mixedTokens := by
  have hpieces : Piece.scan mixedText.toList = ([⟨.token .openParen (.str "("), ['(']⟩,
      ⟨.token .symbol (.str "né"), ['n', 'é']⟩, ⟨.blank, [' ']⟩,
      ⟨.token .keyword (.str ":β"), [':', 'β']⟩, ⟨.blank, [' ']⟩,
      ⟨.token .string (.str "λ"), ['"', 'λ', '"']⟩, ⟨.token .closeParen (.str ")"), [')']⟩,
      ⟨.blank, [' ']⟩, ⟨.token .number (.int (-7)), ['-', '7']⟩,
      ⟨.comment, [';', ';', ' ', 'f', 'i', 'n']⟩], none) := by
    iterate 10 refine Piece.scan_of_cut rfl ?_
    exact Piece.scan_nil
  have hscan : Token.scan "" mixedText = .ok mixedTokens := by
    rw [Token.scan, hpieces]
    rfl
  obtain ⟨hcursor, htiles⟩ := tokens_tile_source "" mixedText
  exact ⟨hcursor.trans (congrArg some hscan), htiles _ hscan⟩

end GestureGraph
