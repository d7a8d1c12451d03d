import GestureGraph.Proofs.Buffering

namespace GestureGraph

namespace Text

theorem fields_intercalate {sep : Char} {parts : List (List Char)} (hne : parts ≠ [])
    (h : ∀ part ∈ parts, sep ∉ part) : fields sep ([sep].intercalate parts) = parts := by
  induction parts with
  | nil => exact absurd rfl hne
  | cons part rest ih =>
      obtain ⟨hpart, hrest⟩ := List.forall_mem_cons.mp h
      cases rest with
      | nil => rw [List.intercalate_singleton, fields_of_not_mem hpart]
      | cons next rest =>
          rw [List.intercalate_cons_cons, List.append_assoc, List.singleton_append, fields_lines,
            fields_of_not_mem hpart, ih (List.cons_ne_nil _ _) hrest, List.singleton_append]

theorem trimEnd_subset (cs : List Char) : trimEnd cs ⊆ cs := by
  intro c hc
  rw [trimEnd, List.mem_reverse] at hc
  exact List.mem_reverse.mp ((List.dropWhile_sublist _).mem hc)

end Text

namespace Session

def linesOf (text : String) : List String := (Text.fields '\n' text.toList).map String.ofList

theorem linesOf_joined {lines : List String} (hne : lines ≠ [])
    (h : ∀ line ∈ lines, '\n' ∉ line.toList) :
    linesOf ("\n".intercalate lines) = lines := by
  have hne' : lines.map String.toList ≠ [] := by simpa using hne
  have hnewline : ("\n" : String).toList = ['\n'] := rfl
  rw [linesOf, String.toList_intercalate, hnewline,
    Text.fields_intercalate hne' (by simpa using h), List.map_map]
  simp [Function.comp_def]

theorem not_mem_trimmed {c : Char} {line : String} (h : c ∉ line.toList) :
    c ∉ (trimmed line).toList := by
  rw [trimmed, String.toList_ofList]
  exact fun hmem => h (Text.trimEnd_subset _ hmem)

def takes (s : Session) (line : String) : List String :=
  if isBlankLine line && !s.isBuffering then [] else [trimmed line]

def taken (s : Session) : List String → List String
  | [] => []
  | line :: lines => s.takes line ++ (s.pushLine line).2.taken lines

def emitted (s : Session) : List String → List String
  | [] => []
  | line :: lines => (s.pushLine line).1.toList ++ (s.pushLine line).2.emitted lines

variable {s : Session} {line : String} {lines : List String}

theorem linesOf_joinedWith (hbuffer : ∀ l ∈ s.buffer, '\n' ∉ l.toList)
    (hline : '\n' ∉ line.toList) : linesOf (s.joinedWith line) = s.buffer ++ [trimmed line] := by
  refine linesOf_joined (by simp) ?_
  exact List.forall_mem_append.mpr ⟨hbuffer, by simpa using not_mem_trimmed hline⟩

theorem lines_pushLine (hbuffer : ∀ l ∈ s.buffer, '\n' ∉ l.toList) (hline : '\n' ∉ line.toList) :
    (s.pushLine line).1.toList.flatMap linesOf ++ (s.pushLine line).2.buffer =
      s.buffer ++ s.takes line := by
  have hjoined := linesOf_joinedWith hbuffer hline
  cases hblank : isBlankLine line with
  | true =>
      rw [pushLine_of_blank hblank, takes, hblank]
      cases hwait : s.isBuffering with
      | true => simp [hjoined]
      | false =>
          have hempty : s.buffer = [] := by simpa [isBuffering] using hwait
          simp [hempty]
  | false =>
      rw [pushLine_eq hblank, takes, hblank]
      split
      · simp
      · simp [hjoined]

theorem not_mem_pushLine (hbuffer : ∀ l ∈ s.buffer, '\n' ∉ l.toList) (hline : '\n' ∉ line.toList) :
    ∀ l ∈ (s.pushLine line).2.buffer, '\n' ∉ l.toList := by
  rcases s.buffer_pushLine line with h | h
  · rw [h]
    exact List.forall_mem_append.mpr ⟨hbuffer, by simpa using not_mem_trimmed hline⟩
  · rw [h]
    exact fun l hl => absurd hl List.not_mem_nil

theorem lines_feed (hbuffer : ∀ l ∈ s.buffer, '\n' ∉ l.toList)
    (hlines : ∀ l ∈ lines, '\n' ∉ l.toList) :
    (s.emitted lines).flatMap linesOf ++ (s.feed lines).buffer = s.buffer ++ s.taken lines := by
  induction lines generalizing s with
  | nil => simp [emitted, feed, taken]
  | cons line lines ih =>
      obtain ⟨hline, hlines⟩ := List.forall_mem_cons.mp hlines
      have hstep := lines_pushLine hbuffer hline
      have hrest := ih (not_mem_pushLine hbuffer hline) hlines
      rw [emitted, feed, taken, List.flatMap_append, List.append_assoc, hrest, ← List.append_assoc,
        hstep, List.append_assoc]

/-- Lines that an expression keeps waiting: the first of them opens it, and as far as any of them
it is not closed. -/
structure Waiting (lines : List String) : Prop where
  opens : ∀ first ∈ lines.head?, (Text.trimStart first.toList).head? = some '('
  notClosed : ∀ part, part <+: lines → part ≠ [] →
    ("\n".intercalate part).toList.count ')' < ("\n".intercalate part).toList.count '('
  notBlank : ∀ line ∈ lines, isBlankLine line = false

theorem waiting_nil : Waiting [] where
  opens first h := by cases h
  notClosed part h hne := absurd (List.prefix_nil.mp h) hne
  notBlank line h := absurd h List.not_mem_nil

theorem Waiting.pushLine (h : Waiting s.buffer) (line : String) :
    Waiting (s.pushLine line).2.buffer := by
  cases hblank : isBlankLine line with
  | true =>
      rw [pushLine_of_blank hblank]
      exact waiting_nil
  | false =>
      rw [pushLine_eq hblank]
      split
      · rename_i hwaits
        obtain ⟨hmore, hstart⟩ := waits_iff.mp hwaits
        rw [opensMore, decide_eq_true_eq] at hmore
        refine ⟨fun first hfirst => ?_, fun part hpart hne => ?_, ?_⟩
        · cases hbuffer : s.buffer with
          | nil =>
              have hstart := hstart hbuffer
              rw [joinedWith, hbuffer] at hstart
              simp only [hbuffer, List.nil_append, List.head?_cons, Option.mem_some] at hfirst
              exact hfirst ▸ hstart
          | cons l ls =>
              rw [hbuffer] at hfirst
              exact h.opens first (hbuffer ▸ hfirst)
        · rcases List.prefix_concat_iff.mp hpart with rfl | hpart
          · exact hmore
          · exact h.notClosed part hpart hne
        · refine List.forall_mem_append.mpr ⟨h.notBlank, ?_⟩
          simpa using hblank
      · exact waiting_nil

theorem Waiting.feed (h : Waiting s.buffer) (lines : List String) :
    Waiting (s.feed lines).buffer := by
  induction lines generalizing s with
  | nil => exact h
  | cons line lines ih =>
      rw [Session.feed]
      exact ih (h.pushLine line)

theorem every_line_is_kept (hs : s.buffer = []) (hlines : ∀ line ∈ lines, '\n' ∉ line.toList) :
    (s.emitted lines).flatMap linesOf ++ (s.feed lines).buffer = s.taken lines ∧
    ∀ fed, fed <+: lines → Waiting (s.feed fed).buffer ∧
      ∀ line, isBlankLine line = true → ((s.feed fed).pushLine line).2.buffer = [] := by
  have hbuffer : ∀ l ∈ s.buffer, '\n' ∉ l.toList := by simp [hs]
  have hwaiting : Waiting s.buffer := hs ▸ waiting_nil
  refine ⟨?_, fun fed _ => ⟨hwaiting.feed fed, fun line hblank => ?_⟩⟩
  · rw [lines_feed hbuffer hlines, hs, List.nil_append]
  · rw [pushLine_of_blank hblank]

def pauses : List String := ["  ", "(Phi a  ", "\t", "b) c", " (Phi (d e", "f) "]

theorem every_line_of_pauses_is_kept : start.buffer = [] ∧
    (∀ line ∈ pauses, '\n' ∉ line.toList) ∧
    start.emitted pauses = ["(Phi a\n", "b) c"] ∧
    (start.feed pauses).buffer = [" (Phi (d e", "f)"] ∧
    start.taken pauses = ["(Phi a", "", "b) c", " (Phi (d e", "f)"] ∧
    Waiting [" (Phi (d e", "f)"] := by
  have hlines : ∀ line ∈ pauses, '\n' ∉ line.toList := by decide
  obtain ⟨hkept, hmoments⟩ := every_line_is_kept (s := start) rfl hlines
  have hemitted : start.emitted pauses = ["(Phi a\n", "b) c"] := by rfl
  have hbuffer : (start.feed pauses).buffer = [" (Phi (d e", "f)"] := by rfl
  refine ⟨rfl, hlines, hemitted, hbuffer, ?_, ?_⟩
  · rw [← hkept, hemitted, hbuffer]
    rfl
  · rw [← hbuffer]
    exact (hmoments pauses List.prefix_rfl).1

end Session

end GestureGraph
