import GestureGraph.Proofs.Cuts
import GestureGraph.Proofs.Grammar

namespace GestureGraph

namespace Piece

theorem endsAlike_line (rest bs : List Char) : EndsAlike rest (rest ++ '\n' :: bs) where
  head c hc := by
    cases rest with
    | nil => exact Or.inl (Option.some.inj hc).symm
    | cons d ds => exact Or.inr hc
  word hends := by
    cases hends with
    | nil => exact .blank bs (by decide)
    | blank cs hc => exact .blank _ hc
    | opening cs => exact .opening _
    | closing cs => exact .closing _
    | comment cs => exact .comment _

theorem Read.before_line {cs rest : List Char} {ps : List Piece} (h : Read cs ps rest)
    (bs : List Char) : Read (cs ++ '\n' :: bs) ps (rest ++ '\n' :: bs) := by
  have hread := h.behind (endsAlike_line rest bs)
  rwa [← List.append_assoc, h.joined] at hread

theorem read_lineEnd (bs : List Char) : Read ('\n' :: bs) [⟨.blank, ['\n']⟩] bs :=
  .cut rfl (.done bs)

end Piece

def Token.shift (n : Nat) (t : Token) : Token := { t with start := t.start + n, stop := t.stop + n }

/-- The same error further on in a text. An error in the structure has no place. -/
def SyntaxError.shift (n : Nat) : SyntaxError → SyntaxError
  | .unterminatedString offset origin => .unterminatedString (offset + n) origin
  | .unexpectedChar c offset origin => .unexpectedChar c (offset + n) origin
  | .invalidNumber lexeme offset origin => .invalidNumber lexeme (offset + n) origin
  | e => e

theorem Fault.locate_add (fault : Fault) (offset n : Nat) (origin : String) :
    fault.locate (offset + n) origin = (fault.locate offset origin).shift n := by
  cases fault <;> rfl

theorem Piece.tokensFrom_add (offset n : Nat) (ps : List Piece) :
    tokensFrom (offset + n) ps = (tokensFrom offset ps).map (Token.shift n) := by
  induction ps generalizing offset with
  | nil => rfl
  | cons p ps ih =>
      have hstop : offset + n + byteSize p.text = offset + byteSize p.text + n := by omega
      simp only [tokensFrom, hstop, ih]
      cases p.kind <;> rfl

theorem Token.scan_lines {origin a : String} {ta : List Token} (h : scan origin a = .ok ta)
    (b : String) :
    scan origin (a ++ "\n" ++ b) =
      match scan origin b with
      | .ok tb => .ok (ta ++ tb.map (shift (a.utf8ByteSize + 1)))
      | .error e => .error (e.shift (a.utf8ByteSize + 1)) := by
  obtain ⟨ps, hread, rfl⟩ := read_of_scan h
  have htext : (a ++ "\n" ++ b).toList = a.toList ++ '\n' :: b.toList := by simp
  have hsize : byteSize (Piece.joined ps) = a.utf8ByteSize := by
    have hjoined := hread.joined
    rw [List.append_nil] at hjoined
    rw [hjoined, byteSize_toList]
  have hlines := ((hread.before_line b.toList).append (Piece.read_lineEnd b.toList)).scan
  have hnewline : byteSize ['\n'] = 1 := rfl
  rw [scan, scan, htext, hlines]
  cases hb : Piece.scan b.toList with
  | mk qs fault? =>
      cases fault? with
      | none =>
          dsimp only
          rw [Piece.tokensFrom_append, Piece.tokensFrom_append, Piece.joined_append,
            byteSize_append, hsize, ← Piece.tokensFrom_add]
          simp [Piece.tokensFrom, hnewline]
      | some fault =>
          dsimp only
          rw [← Fault.locate_add, Piece.joined_append, Piece.joined_append, byteSize_append,
            byteSize_append, hsize]
          simp [hnewline, Nat.add_comm]

namespace Program

theorem parseIn_shift (n max : Nat) (echo : String) (items : List Value)
    (outer : List (List Value)) (ts : List Token) :
    parseIn max echo items outer (ts.map (Token.shift n)) = parseIn max echo items outer ts := by
  induction ts generalizing items outer with
  | nil => rfl
  | cons t ts ih =>
      simp only [List.map_cons, parseIn, ih]
      rfl

theorem forest_of_parse {bound : Nat} {echo : String} {ts : List Token} {vs : List Value}
    (h : parse bound echo ts = .ok vs) :
    ∃ f : Forest, ts = f.flatten ∧ f.depth ≤ Nat.max bound 1 ∧ f.WellHeaded ∧ f.values = vs := by
  obtain ⟨f, rest, hts, hdepth, hheads, ⟨rfl, _, hvs⟩ | ⟨_, _, _, _, _, _, _, houter, _⟩⟩ :=
    startsWithForest_of_parseIn h
  · exact ⟨f, by simpa using hts, hdepth, hheads, hvs.symm⟩
  · cases houter

theorem parse_append {bound : Nat} {echo echo' : String} {ts us : List Token} {vs ws : List Value}
    (hts : parse bound echo ts = .ok vs) (hus : parse bound echo' us = .ok ws) (n : Nat)
    (echo'' : String) : parse bound echo'' (ts ++ us.map (Token.shift n)) = .ok (vs ++ ws) := by
  obtain ⟨f, rfl, hf, hfheads, rfl⟩ := forest_of_parse hts
  obtain ⟨g, rfl, hg, hgheads, rfl⟩ := forest_of_parse hus
  rw [parse, parseIn_flatten f (by simpa using hf) hfheads, parseIn_shift,
    ← List.append_nil g.flatten, parseIn_flatten g (by simpa using hg) hgheads]
  simp [parseIn]

end Program

namespace Text

theorem fields_of_not_mem {sep : Char} {cs : List Char} (h : sep ∉ cs) : fields sep cs = [cs] := by
  induction cs with
  | nil => rfl
  | cons c cs ih =>
      have hc : c ≠ sep := fun heq => h (heq ▸ List.mem_cons_self)
      rw [fields, if_neg hc, ih fun hmem => h (List.mem_cons_of_mem c hmem)]

theorem fields_lines (sep : Char) (as bs : List Char) :
    fields sep (as ++ sep :: bs) = fields sep as ++ fields sep bs := by
  induction as with
  | nil => simp [fields]
  | cons c cs ih =>
      by_cases hc : c = sep
      · simp [fields, hc, ih]
      · obtain ⟨field, rest, hfields⟩ := List.exists_cons_of_ne_nil (fields_ne_nil sep cs)
        simp [fields, hc, ih, hfields]

theorem lines_eq (cs : List Char) : ∃ ended last, fields '\n' cs = ended ++ [last] ∧
    lines cs = ended.map dropReturn ++ if last.isEmpty then [] else [last] := by
  rw [lines]
  cases h : (fields '\n' cs).reverse with
  | nil => exact absurd (List.reverse_eq_nil_iff.mp h) (fields_ne_nil '\n' cs)
  | cons last done =>
      refine ⟨done.reverse, last, ?_, ?_⟩
      · rw [← List.reverse_cons, ← h, List.reverse_reverse]
      · simp only [List.map_reverse]
        split <;> simp

theorem trimEnd_eq_nil_iff {cs : List Char} : trimEnd cs = [] ↔ ∀ c ∈ cs, isBlank c = true := by
  rw [trimEnd, List.reverse_eq_nil_iff, List.dropWhile_eq_nil_iff]
  simp

theorem trim_eq_nil_iff {cs : List Char} : trim cs = [] ↔ ∀ c ∈ cs, isBlank c = true := by
  rw [trim, trimEnd_eq_nil_iff, trimStart]
  constructor
  · intro h c hc
    rw [← List.takeWhile_append_dropWhile (p := isBlank) (l := cs), List.mem_append] at hc
    rcases hc with hc | hc
    · exact List.mem_takeWhile_imp hc
    · exact h c hc
  · exact fun h c hc => h c ((List.dropWhile_sublist _).mem hc)

theorem trimEnd_append_blank {c : Char} (hc : isBlank c = true) (cs : List Char) :
    trimEnd (cs ++ [c]) = trimEnd cs := by
  simp [trimEnd, hc]

theorem trim_append_blank {c : Char} (hc : isBlank c = true) (cs : List Char) :
    trim (cs ++ [c]) = trim cs := by
  rw [trim, trim, trimStart, List.dropWhile_append]
  split
  · rename_i hblank
    simp [trimStart, List.isEmpty_iff.mp hblank, hc]
  · exact trimEnd_append_blank hc _

end Text

theorem afterMark?_append_return (line : List Char) :
    afterMark? (line ++ ['\r']) = (afterMark? line).map (· ++ ['\r']) := by
  fun_induction afterMark? line with
  | case1 cs => rfl
  | case2 c cs hmark ih =>
      rw [List.cons_append, afterMark?, ih]
      intro rest hc hcs
      cases cs with
      | nil => cases hcs
      | cons d ds =>
          rw [List.cons_append] at hcs
          obtain ⟨rfl, rfl⟩ := List.cons.inj hcs
          exact hmark ds hc rfl
  | case3 => rfl

theorem lineIntention?_append_return (line : List Char) :
    lineIntention? (line ++ ['\r']) = lineIntention? line := by
  rw [lineIntention?, afterMark?_append_return, lineIntention?]
  cases afterMark? line with
  | none => rfl
  | some comment =>
      have hreturn : Text.isBlank '\r' = true := by decide
      simp only [Option.map_some, Text.trim_append_blank hreturn]

theorem lineIntention?_dropReturn (line : List Char) :
    lineIntention? (Text.dropReturn line) = lineIntention? line := by
  rw [Text.dropReturn]
  split
  · rename_i hlast
    obtain ⟨front, rfl⟩ := List.getLast?_eq_some_iff.mp hlast
    rw [List.dropLast_concat, lineIntention?_append_return]
  · rfl

theorem intentionsOf_eq (source : String) :
    intentionsOf source = (Text.fields '\n' source.toList).filterMap lineIntention? := by
  obtain ⟨ended, last, hfields, hlines⟩ := Text.lines_eq source.toList
  have hended : (ended.map Text.dropReturn).filterMap lineIntention? =
      ended.filterMap lineIntention? := by
    rw [List.filterMap_map]
    exact congrArg (ended.filterMap ·) (funext lineIntention?_dropReturn)
  rw [intentionsOf, hlines, hfields, List.filterMap_append, List.filterMap_append, hended]
  split
  · rename_i hlast
    rw [List.isEmpty_iff.mp hlast]
    rfl
  · rfl

theorem intentionsOf_lines (a b : String) :
    intentionsOf (a ++ "\n" ++ b) = intentionsOf a ++ intentionsOf b := by
  have htext : (a ++ "\n" ++ b).toList = a.toList ++ '\n' :: b.toList := by simp
  rw [intentionsOf_eq, intentionsOf_eq, intentionsOf_eq, htext, Text.fields_lines,
    List.filterMap_append]

namespace Program

theorem texts_compose_line_by_line (origin a b : String) :
    (∀ ta, Token.scan origin a = .ok ta → Token.scan origin (a ++ "\n" ++ b) =
      match Token.scan origin b with
      | .ok tb => .ok (ta ++ tb.map (Token.shift (a.utf8ByteSize + 1)))
      | .error e => .error (e.shift (a.utf8ByteSize + 1))) ∧
    ∀ (axioms : Axioms) pa pb, read axioms origin a = .ok pa → read axioms origin b = .ok pb →
      axioms.checkPhrases (a ++ "\n" ++ b) = .ok () →
        read axioms origin (a ++ "\n" ++ b) =
          .ok ⟨pa.expressions ++ pb.expressions, pa.intentions ++ pb.intentions⟩ := by
  refine ⟨fun ta ha => Token.scan_lines ha b, fun axioms pa pb ha hb hphrases => ?_⟩
  obtain ⟨_, ta, hta, va, hva, rfl⟩ := read_eq_ok_iff.mp ha
  obtain ⟨_, tb, htb, vb, hvb, rfl⟩ := read_eq_ok_iff.mp hb
  have hjoined : Token.scan origin (a ++ "\n" ++ b) =
      .ok (ta ++ tb.map (Token.shift (a.utf8ByteSize + 1))) := by
    rw [Token.scan_lines hta b, htb]
  refine read_eq_ok_iff.mpr ⟨hphrases, _, hjoined, va ++ vb, parse_append hva hvb _ _, ?_⟩
  rw [intentionsOf_lines]

def firstText : String := "(Phi \"x\") ;; first\r"

def secondText : String := "x; -7;;second"

theorem first_and_second_text_compose :
    read ⟨{}, [], {}, {}⟩ "" firstText = .ok ⟨[.list [.str "Phi", .str "x"]], ["first"]⟩ ∧
    read ⟨{}, [], {}, {}⟩ "" secondText = .ok ⟨[.str "x;", .int (-7)], ["second"]⟩ ∧
    read ⟨{}, [], {}, {}⟩ "" (firstText ++ "\n" ++ secondText) =
      .ok ⟨[.list [.str "Phi", .str "x"], .str "x;", .int (-7)], ["first", "second"]⟩ := by
  have hfirst : Piece.Read firstText.toList [⟨.token .openParen (.str "("), ['(']⟩,
      ⟨.token .symbol (.str "Phi"), ['P', 'h', 'i']⟩, ⟨.blank, [' ']⟩,
      ⟨.token .string (.str "x"), ['"', 'x', '"']⟩, ⟨.token .closeParen (.str ")"), [')']⟩,
      ⟨.blank, [' ']⟩, ⟨.comment, [';', ';', ' ', 'f', 'i', 'r', 's', 't', '\r']⟩] [] := by
    iterate 7 refine .cut rfl ?_
    exact .done []
  have hsecond : Piece.Read secondText.toList [⟨.token .symbol (.str "x;"), ['x', ';']⟩,
      ⟨.blank, [' ']⟩, ⟨.token .number (.int (-7)), ['-', '7']⟩,
      ⟨.comment, [';', ';', 's', 'e', 'c', 'o', 'n', 'd']⟩] [] := by
    iterate 4 refine .cut rfl ?_
    exact .done []
  have ha : read ⟨{}, [], {}, {}⟩ "" firstText = .ok ⟨[.list [.str "Phi", .str "x"]], ["first"]⟩ :=
    read_eq_ok_iff.mpr ⟨rfl, _, Token.scan_of_read hfirst, _, rfl, rfl⟩
  have hb : read ⟨{}, [], {}, {}⟩ "" secondText = .ok ⟨[.str "x;", .int (-7)], ["second"]⟩ :=
    read_eq_ok_iff.mpr ⟨rfl, _, Token.scan_of_read hsecond, _, rfl, rfl⟩
  exact ⟨ha, hb, (texts_compose_line_by_line "" firstText secondText).2 _ _ _ ha hb rfl⟩

end Program

end GestureGraph
