import GestureGraph.Proofs.Cuts
import GestureGraph.Proofs.Lines

namespace GestureGraph

structure Comment where
  line : Nat
  text : List Char

def Comment.said (c : Comment) : List Char := Text.trim (c.text.drop 2)

def Piece.commentsFrom (line : Nat) : List Piece → List Comment
  | [] => []
  | p :: ps =>
      match p.kind with
      | .comment => ⟨line, p.text⟩ :: commentsFrom (line + p.text.count '\n') ps
      | _ => commentsFrom (line + p.text.count '\n') ps

def comments (source : String) : List Comment :=
  Piece.commentsFrom 0 (Piece.scan source.toList).1

namespace Text

theorem fields_cons_of_ne {sep c : Char} (hc : c ≠ sep) (cs : List Char) :
    ∃ field rest, fields sep cs = field :: rest ∧ fields sep (c :: cs) = (c :: field) :: rest := by
  obtain ⟨field, rest, hfields⟩ := List.exists_cons_of_ne_nil (fields_ne_nil sep cs)
  refine ⟨field, rest, hfields, ?_⟩
  rw [fields, if_neg hc, hfields]

theorem head?_of_fields {sep : Char} {cs field : List Char} {rest : List (List Char)}
    (h : fields sep cs = field :: rest) : field.head? = cs.head?.filter (· ≠ sep) := by
  cases cs with
  | nil =>
      cases h
      rfl
  | cons c cs =>
      by_cases hc : c = sep
      · rw [fields, if_pos hc] at h
        cases h
        rw [List.head?_cons, Option.filter_some_neg (by simpa using hc)]
        rfl
      · obtain ⟨_, _, _, hcons⟩ := fields_cons_of_ne hc cs
        rw [hcons] at h
        cases h
        rw [List.head?_cons, List.head?_cons, Option.filter_some_pos (by simpa using hc)]

end Text

theorem lineIntention?_getElem?_lines (cs : List Char) (n : Nat) :
    (Text.lines cs)[n]?.bind lineIntention? = (Text.fields '\n' cs)[n]?.bind lineIntention? := by
  obtain ⟨ended, last, hfields, hlines⟩ := Text.lines_eq cs
  rw [hfields, hlines]
  by_cases hn : n < ended.length
  · rw [List.getElem?_append_left (by simpa using hn), List.getElem?_append_left hn,
      List.getElem?_map, List.getElem?_eq_getElem hn]
    exact lineIntention?_dropReturn _
  · have hn := Nat.not_lt.mp hn
    rw [List.getElem?_append_right (by simpa using hn), List.getElem?_append_right hn,
      List.length_map]
    split
    · rename_i hlast
      rw [List.isEmpty_iff.mp hlast]
      cases n - ended.length <;> rfl
    · rfl

def remarks (n : Nat) (cs : List Char) : List (Nat × String) :=
  ((Text.fields '\n' cs).zipIdx n).filterMap fun line =>
    (lineIntention? line.1).map fun said => (line.2, said)

def Comment.remark? (c : Comment) : Option (Nat × String) :=
  (lineIntention? c.text).map fun said => (c.line, said)

/-- No comment starts inside a text, not even together with what follows it. -/
def CommentFree (text rest : List Char) : Prop :=
  ∀ as c bs, text = as ++ c :: bs → Piece.startsComment c (bs ++ rest) = false

theorem CommentFree.tail {c : Char} {text rest : List Char} (h : CommentFree (c :: text) rest) :
    CommentFree text rest := fun as d bs heq => h (c :: as) d bs (by rw [heq, List.cons_append])

theorem remarks_of_fields {n : Nat} {cs field : List Char} {rest : List (List Char)}
    (h : Text.fields '\n' cs = field :: rest) :
    remarks n cs = ((lineIntention? field).map fun said => (n, said)).toList ++
      (rest.zipIdx (n + 1)).filterMap fun line =>
        (lineIntention? line.1).map fun said => (line.2, said) := by
  rw [remarks, h, List.zipIdx_cons, List.filterMap_cons]
  cases lineIntention? field <;> rfl

theorem afterMark?_cons {c : Char} {cs : List Char} (h : Piece.startsComment c cs = false) :
    afterMark? (c :: cs) = afterMark? cs := by
  rw [afterMark?]
  rintro rest rfl rfl
  simp [Piece.startsComment] at h

theorem remarks_newline (n : Nat) (cs : List Char) :
    remarks n ('\n' :: cs) = remarks (n + 1) cs :=
  remarks_of_fields (Text.fields_lines '\n' [] cs)

theorem remarks_cons {c : Char} {cs : List Char} (h : Piece.startsComment c cs = false) (n : Nat) :
    remarks n (c :: cs) = remarks (n + [c].count '\n') cs := by
  by_cases hc : c = '\n'
  · subst hc
    exact remarks_newline n cs
  · obtain ⟨field, rest, hfields, hcons⟩ := Text.fields_cons_of_ne hc cs
    have hfield : Piece.startsComment c field = false := by
      rw [Piece.startsComment, Bool.and_eq_false_iff, decide_eq_false_iff_not,
        decide_eq_false_iff_not] at h ⊢
      refine h.imp id fun hhead heq => hhead ?_
      rw [Text.head?_of_fields hfields, Option.filter_eq_some_iff] at heq
      exact heq.1
    have hsaid : lineIntention? (c :: field) = lineIntention? field := by
      rw [lineIntention?, afterMark?_cons hfield, ← lineIntention?]
    rw [List.count_singleton, if_neg (by simpa using hc), remarks_of_fields hcons, hsaid,
      remarks_of_fields hfields]
    rfl

theorem remarks_append {cs rest : List Char} (h : CommentFree cs rest) (n : Nat) :
    remarks n (cs ++ rest) = remarks (n + cs.count '\n') rest := by
  induction cs generalizing n with
  | nil => rfl
  | cons c cs ih =>
      rw [List.cons_append, remarks_cons (h [] c cs rfl), ih h.tail, Nat.add_assoc,
        ← List.count_append, List.singleton_append]

theorem remarks_comment {text rest : List Char} (htext : '\n' ∉ text)
    (hend : ∀ c ∈ rest.head?, c = '\n') (n : Nat) :
    remarks n (text ++ rest) = (Comment.remark? ⟨n, text⟩).toList ++ remarks n rest := by
  cases rest with
  | nil =>
      rw [List.append_nil, remarks_of_fields (Text.fields_of_not_mem htext)]
      rfl
  | cons c cs =>
      obtain rfl := hend c rfl
      have hfields := Text.fields_lines '\n' text cs
      rw [Text.fields_of_not_mem htext] at hfields
      rw [remarks_of_fields hfields, remarks_newline]
      rfl

namespace Piece

theorem commentFree_single {c : Char} {rest : List Char} (hc : c ≠ ';') : CommentFree [c] rest := by
  rintro (_ | ⟨a, as⟩) d bs heq
  · obtain ⟨rfl, rfl⟩ := List.cons.inj heq
    simp [startsComment, hc]
  · simp at heq

theorem commentFree_string {body rest : List Char} (h : ¬ [';', ';'] <:+: body ++ ['"']) :
    CommentFree (body ++ ['"']) rest := by
  intro as c bs heq
  rw [startsComment, Bool.and_eq_false_iff, decide_eq_false_iff_not, decide_eq_false_iff_not]
  by_contra! hmark
  obtain ⟨rfl, hnext⟩ := hmark
  cases bs with
  | nil => simpa using (List.append_inj' heq rfl).2
  | cons b bs =>
      obtain rfl : b = ';' := by simpa using hnext
      exact h ⟨as, bs, by rw [heq]; simp⟩

theorem commentFree_of_cuts {c : Char} {cs rest : List Char} {p : Piece} (h : Cuts c cs p rest)
    (hcomment : p.kind ≠ .comment)
    (hstring : ∀ value, p.kind = .token .string value → ¬ [';', ';'] <:+: p.text) :
    CommentFree p.text rest := by
  cases h with
  | blank hc =>
      refine commentFree_single ?_
      rintro rfl
      cases hc
  | comment hc => exact absurd rfl hcomment
  | opening hc => exact commentFree_single (hc ▸ by decide)
  | closing hc => exact commentFree_single (hc ▸ by decide)
  | string hc hcut value =>
      obtain ⟨inner, rfl⟩ := cutString?_ends hcut
      exact @commentFree_string (c :: inner) rest (hstring value rfl)
  | word hc value =>
      intro as d bs heq
      cases as with
      | nil =>
          obtain ⟨rfl, _⟩ := List.cons.inj heq
          simp [startsComment, (plain_of_startsWord hc).2.2]
      | cons a as =>
          exact (endsWord_eq_false_iff.mp (not_endsWord_of_cutWord (List.cons.inj heq).2)).2.2.2
  | number hc value =>
      intro as d bs heq
      have hd := plain_of_mem_number hc (heq ▸ List.mem_append_right as List.mem_cons_self)
      simp [startsComment, hd.2.2]

theorem remarks_of_read {cs : List Char} {ps : List Piece} (h : Read cs ps [])
    (hstring : ∀ p ∈ ps, ∀ value, p.kind = .token .string value → ¬ [';', ';'] <:+: p.text)
    (n : Nat) : remarks n cs = (commentsFrom n ps).filterMap Comment.remark? := by
  generalize hend : [] = rest at h
  induction h generalizing n with
  | done cs =>
      subst hend
      rfl
  | @cut c cs mid rest p ps hcut _ ih =>
      have ih := ih (fun q hq => hstring q (List.mem_cons_of_mem p hq))
        (n + p.text.count '\n') hend
      rw [← (cut_append hcut).2, commentsFrom]
      have hplain (hkind : p.kind ≠ .comment) :
          remarks n (p.text ++ mid) = remarks (n + p.text.count '\n') mid :=
        remarks_append
          (commentFree_of_cuts (cuts_of_cut hcut) hkind (hstring p List.mem_cons_self)) n
      cases shape_of_cut hcut with
      | @comment body hbody hafter =>
          have hline : '\n' ∉ ';' :: ';' :: body := by simpa using hbody
          rw [List.count_eq_zero.mpr hline, Nat.add_zero] at ih ⊢
          rw [remarks_comment hline hafter, ih, List.filterMap_cons]
          cases Comment.remark? _ <;> rfl
      | blank _ => rw [hplain (by simp), ih]
      | token _ _ => rw [hplain (by simp), ih]

theorem token_of_mem {source : String} {pre cs rest : List Char} {ps : List Piece}
    (h : Read cs ps rest) (hsource : source.toList = pre ++ cs) {p : Piece} (hp : p ∈ ps)
    {kind : TokenKind} {value : Value} (hkind : p.kind = .token kind value) :
    ∃ t ∈ tokensFrom (byteSize pre) ps,
      t.kind = kind ∧ slice? source t.start t.stop = some p.text := by
  induction h generalizing pre with
  | done cs => cases hp
  | @cut c cs mid rest q ps hcut _ ih =>
      rw [← (cut_append hcut).2, ← List.append_assoc] at hsource
      rw [tokensFrom_cons, ← byteSize_append]
      rcases List.mem_cons.mp hp with rfl | hp
      · refine ⟨⟨kind, value, byteSize pre, byteSize (pre ++ p.text)⟩, ?_, rfl,
          slice?_of_append hsource⟩
        simp [tokensFrom, hkind]
      · obtain ⟨t, ht, hread⟩ := ih hsource hp
        exact ⟨t, List.mem_append_right _ ht, hread⟩

theorem starts_of_mem_commentsFrom {cs rest : List Char} {ps : List Piece} (h : Read cs ps rest)
    {n : Nat} {c : Comment} (hc : c ∈ commentsFrom n ps) : [';', ';'] <+: c.text := by
  induction h generalizing n with
  | done cs => cases hc
  | cut hcut _ ih =>
      rw [commentsFrom] at hc
      cases shape_of_cut hcut with
      | comment _ _ =>
          rcases List.mem_cons.mp hc with rfl | hc
          · exact List.prefix_append [';', ';'] _
          · exact ih hc
      | blank _ => exact ih hc
      | token _ _ => exact ih hc

end Piece

variable {origin source : String} {tokens : List Token}

theorem comments_of_read {ps : List Piece} (h : Piece.Read source.toList ps []) :
    comments source = Piece.commentsFrom 0 ps := by
  rw [comments, h.scan_all]

theorem remarks_eq_comments (h : Token.scan origin source = .ok tokens)
    (hstrings : ∀ t ∈ tokens, t.kind = .string → ∀ text, slice? source t.start t.stop = some text →
      ¬ [';', ';'] <:+: text) :
    remarks 0 source.toList = (comments source).filterMap Comment.remark? := by
  obtain ⟨ps, hread, rfl⟩ := Token.read_of_scan h
  rw [comments_of_read hread]
  refine Piece.remarks_of_read hread (fun p hp value hkind => ?_) 0
  obtain ⟨t, ht, hstring, htext⟩ := Piece.token_of_mem hread (List.nil_append _).symm hp hkind
  exact hstrings t ht hstring p.text htext

theorem map_remarks (n : Nat) (cs : List Char) :
    (remarks n cs).map (·.2) = (Text.fields '\n' cs).filterMap lineIntention? := by
  rw [remarks, List.map_filterMap, ← List.zipIdx_map_fst n (Text.fields '\n' cs),
    List.filterMap_map, List.zipIdx_map_fst]
  refine congrArg (List.filterMap · _) (funext fun line => ?_)
  rw [Option.map_map]
  exact Option.map_id'

theorem mem_remarks {n : Nat} {cs : List Char} {said : String} :
    (n, said) ∈ remarks 0 cs ↔ (Text.lines cs)[n]?.bind lineIntention? = some said := by
  rw [lineIntention?_getElem?_lines, Option.bind_eq_some_iff, remarks, List.mem_filterMap]
  constructor
  · rintro ⟨⟨line, m⟩, hline, hsaid⟩
    obtain ⟨said, hsaid, heq⟩ := Option.map_eq_some_iff.mp hsaid
    cases heq
    exact ⟨line, List.mk_mem_zipIdx_iff_getElem?.mp hline, hsaid⟩
  · rintro ⟨line, hline, hsaid⟩
    exact ⟨(line, n), List.mk_mem_zipIdx_iff_getElem?.mpr hline, by rw [hsaid, Option.map_some]⟩

theorem lineIntention?_comment {c : Comment} (h : [';', ';'] <+: c.text) :
    lineIntention? c.text = if c.said = [] then none else some (String.ofList c.said) := by
  obtain ⟨body, hbody⟩ := h
  rw [← hbody, Comment.said, ← hbody]
  rfl

theorem Comment.remark?_eq {c : Comment} (h : [';', ';'] <+: c.text) :
    c.remark? = if c.said = [] then none else some (c.line, String.ofList c.said) := by
  rw [remark?, lineIntention?_comment h]
  split <;> rfl

theorem Comment.said_ne_nil_iff {c : Comment} :
    c.said ≠ [] ↔ ∃ x ∈ c.text.drop 2, Text.isBlank x = false := by
  rw [Comment.said, ne_eq, Text.trim_eq_nil_iff]
  simp

theorem intentions_are_comments (h : Token.scan origin source = .ok tokens)
    (hstrings : ∀ t ∈ tokens, t.kind = .string → ∀ text, slice? source t.start t.stop = some text →
      ¬ [';', ';'] <:+: text) :
    intentionsOf source =
        (((comments source).map Comment.said).filter (· ≠ [])).map String.ofList ∧
      ∀ n, (∃ line said, (Text.lines source.toList)[n]? = some line ∧
          lineIntention? line = some said) ↔
        ∃ c ∈ comments source, c.line = n ∧ ∃ x ∈ c.text.drop 2, Text.isBlank x = false := by
  have hremarks := remarks_eq_comments h hstrings
  have hstarts : ∀ c ∈ comments source, [';', ';'] <+: c.text := by
    obtain ⟨ps, hread, _⟩ := Token.read_of_scan h
    rw [comments_of_read hread]
    exact fun c hc => Piece.starts_of_mem_commentsFrom hread hc
  constructor
  · rw [intentionsOf_eq, ← map_remarks 0, hremarks, List.map_filterMap, List.filter_map,
      List.map_map, ← List.filterMap_eq_map, List.filterMap_filter]
    refine List.filterMap_congr fun c hc => ?_
    rw [Comment.remark?_eq (hstarts c hc)]
    by_cases hsaid : c.said = [] <;> simp [hsaid]
  · intro n
    have hline : (∃ line said, (Text.lines source.toList)[n]? = some line ∧
        lineIntention? line = some said) ↔ ∃ said, (n, said) ∈ remarks 0 source.toList := by
      simp only [mem_remarks, Option.bind_eq_some_iff]
      exact exists_comm
    rw [hline, hremarks]
    constructor
    · rintro ⟨said, hmem⟩
      obtain ⟨c, hc, hremark⟩ := List.mem_filterMap.mp hmem
      rw [Comment.remark?_eq (hstarts c hc)] at hremark
      split at hremark
      · cases hremark
      · cases hremark
        exact ⟨c, hc, rfl, Comment.said_ne_nil_iff.mp ‹_›⟩
    · rintro ⟨c, hc, rfl, hx⟩
      have hremark := Comment.remark?_eq (hstarts c hc)
      rw [if_neg (Comment.said_ne_nil_iff.mpr hx)] at hremark
      exact ⟨_, List.mem_filterMap.mpr ⟨c, hc, hremark⟩⟩

def semicolonText : String := "a;b;; one\r\n\"x;\ny\";;; two\n;; "

theorem semicolons_of_text :
    Token.scan "" semicolonText =
      .ok [⟨.symbol, .str "a;b", 0, 3⟩, ⟨.string, .str "x;\ny", 11, 17⟩] ∧
    comments semicolonText = [⟨0, [';', ';', ' ', 'o', 'n', 'e', '\r']⟩,
      ⟨2, [';', ';', ';', ' ', 't', 'w', 'o']⟩, ⟨3, [';', ';', ' ']⟩] ∧
    intentionsOf semicolonText = ["one", "; two"] := by
  have hread : Piece.Read semicolonText.toList [⟨.token .symbol (.str "a;b"), ['a', ';', 'b']⟩,
      ⟨.comment, [';', ';', ' ', 'o', 'n', 'e', '\r']⟩, ⟨.blank, ['\n']⟩,
      ⟨.token .string (.str "x;\ny"), ['"', 'x', ';', '\n', 'y', '"']⟩,
      ⟨.comment, [';', ';', ';', ' ', 't', 'w', 'o']⟩, ⟨.blank, ['\n']⟩,
      ⟨.comment, [';', ';', ' ']⟩] [] := by
    iterate 7 refine .cut rfl ?_
    exact .done []
  have hcomments := comments_of_read hread
  have hscan : Token.scan "" semicolonText =
      .ok [⟨.symbol, .str "a;b", 0, 3⟩, ⟨.string, .str "x;\ny", 11, 17⟩] :=
    Token.scan_of_read hread
  refine ⟨hscan, hcomments, (intentions_are_comments hscan ?_).1.trans (by rw [hcomments]; rfl)⟩
  intro t ht hkind text htext
  have hsource : semicolonText.toList =
      ['a', ';', 'b', ';', ';', ' ', 'o', 'n', 'e', '\r', '\n'] ++
        ['"', 'x', ';', '\n', 'y', '"'] ++
        [';', ';', ';', ' ', 't', 'w', 'o', '\n', ';', ';', ' '] := rfl
  rcases List.mem_pair.mp ht with rfl | rfl
  · cases hkind
  · cases htext.symm.trans (slice?_of_append hsource)
    decide

end GestureGraph
