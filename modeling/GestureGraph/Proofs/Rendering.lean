import GestureGraph.Proofs.Grammar
import GestureGraph.Proofs.Quotation

namespace GestureGraph

namespace Value

structure IsHead (head : String) : Prop where
  starts : ∃ c ∈ head.toList.head?, Piece.isSymbolStart c = true
  word : Piece.IsWord head.toList
  composed : Text.composed head.toList = head.toList

inductive Plain : Value → Prop
  | int (i : Int64) : Plain (.int i)
  | text {s : String} (h : keyOf? s = none) : Plain (.str s)
  | keyword {s key : String} (hkey : keyOf? s = some key) (h : Piece.IsWord key.toList) :
      Plain (.str s)
  | form {head : String} {items : List Value} (hhead : IsHead head)
      (hitems : ∀ v ∈ items, Plain v) : Plain (.list (.str head :: items))

mutual

/-- A value as its quoted text reads: heads and keywords as they are, the escapes of other strings
as part of these. -/
def escaped (shows : Char → Bool) : Value → Value
  | .str s =>
      if (keyOf? s).isSome then .str s else .str (String.ofList (Text.escape shows s.toList))
  | .list (head :: items) => .list (head :: escapedAll shows items)
  | v => v

def escapedAll (shows : Char → Bool) : List Value → List Value
  | [] => []
  | v :: vs => escaped shows v :: escapedAll shows vs

end

mutual

def texts : Value → List String
  | .str s => if (keyOf? s).isSome then [] else [s]
  | .list (_ :: items) => textsOfAll items
  | _ => []

def textsOfAll : List Value → List String
  | [] => []
  | v :: vs => texts v ++ textsOfAll vs

end

mutual

def nesting : Value → Nat
  | .list items => nestingOfAll items + 1
  | _ => 0

def nestingOfAll : List Value → Nat
  | [] => 0
  | v :: vs => max (nesting v) (nestingOfAll vs)

end

mutual

def pieces (shows : Char → Bool) : Value → List Piece
  | .int i => [⟨.token .number (.int i), (intText i).toList⟩]
  | .str s =>
      if (keyOf? s).isSome then [⟨.token .keyword (.str s), s.toList⟩]
      else [⟨.token .string (escaped shows (.str s)), (Text.quotedBy shows s).toList⟩]
  | .list (.str head :: items) =>
      ⟨.token .openParen (.str "("), ['(']⟩ :: ⟨.token .symbol (.str head), head.toList⟩ ::
        (piecesOfAll shows items ++ [⟨.token .closeParen (.str ")"), [')']⟩])
  | _ => []

def piecesOfAll (shows : Char → Bool) : List Value → List Piece
  | [] => []
  | v :: vs => ⟨.blank, [' ']⟩ :: (pieces shows v ++ piecesOfAll shows vs)

end

theorem escapedAll_eq_map (shows : Char → Bool) (vs : List Value) :
    escapedAll shows vs = vs.map (escaped shows) := by
  induction vs with
  | nil => rfl
  | cons v vs ih => rw [escapedAll, ih, List.map_cons]

theorem textsOfAll_eq_flatMap (vs : List Value) : textsOfAll vs = vs.flatMap texts := by
  induction vs with
  | nil => rfl
  | cons v vs ih => rw [textsOfAll, ih, List.flatMap_cons]

theorem nesting_le_of_mem {v : Value} {vs : List Value} (h : v ∈ vs) :
    v.nesting ≤ nestingOfAll vs := by
  induction vs with
  | nil => cases h
  | cons w ws ih =>
      rw [nestingOfAll]
      rcases List.mem_cons.mp h with rfl | h
      · exact Nat.le_max_left _ _
      · exact Nat.le_trans (ih h) (Nat.le_max_right _ _)

theorem toList_of_keyOf? {s key : String} (h : keyOf? s = some key) :
    s.toList = ':' :: key.toList := by
  rw [keyOf?] at h
  split at h
  · rename_i cs hs
    cases h
    rw [hs, String.toList_ofList]
  · cases h

theorem IsHead.cons {head : String} (h : IsHead head) :
    ∃ c cs, head.toList = c :: cs ∧ Piece.isSymbolStart c = true := by
  obtain ⟨c, hc, hstart⟩ := h.starts
  obtain ⟨cs, hcs⟩ := List.head?_eq_some_iff.mp hc
  exact ⟨c, cs, hcs, hstart⟩

theorem IsHead.not_keyword {head : String} (h : IsHead head) : head.toList.head? ≠ some ':' := by
  obtain ⟨c, cs, hcs, hstart⟩ := h.cons
  rw [hcs, List.head?_cons, Ne, Option.some.injEq]
  exact Piece.ne_of_isSymbolStart hstart (by decide)

theorem IsHead.read {head : String} (h : IsHead head) {rest : List Char} (hrest : Stops rest) :
    Piece.Read (head.toList ++ rest) [⟨.token .symbol (.str head), head.toList⟩] rest := by
  obtain ⟨c, cs, hcs, hstart⟩ := h.cons
  have hread := Piece.read_symbol hstart (hcs ▸ h.word) (hcs ▸ h.composed) hrest
  rwa [← hcs, String.ofList_toList] at hread

theorem stops_quotedRest (shows : Char → Bool) (vs : List Value) {rest : List Char}
    (hrest : Stops rest) : Stops ((quotedRest shows vs).toList ++ rest) := by
  cases vs with
  | nil => exact hrest
  | cons v vs =>
      have htext : (quotedRest shows (v :: vs)).toList ++ rest =
          ' ' :: ((v.quotedBy shows).toList ++ (quotedRest shows vs).toList ++ rest) := by
        simp [quotedRest]
      rw [htext]
      exact stops_blank _

theorem read_quotedRest {shows : Char → Bool} {vs : List Value}
    (h : ∀ v ∈ vs, ∀ rest, Stops rest →
      Piece.Read ((v.quotedBy shows).toList ++ rest) (v.pieces shows) rest)
    {rest : List Char} (hrest : Stops rest) :
    Piece.Read ((quotedRest shows vs).toList ++ rest) (piecesOfAll shows vs) rest := by
  induction vs with
  | nil => exact .done rest
  | cons v vs ih =>
      obtain ⟨hv, hvs⟩ := List.forall_mem_cons.mp h
      have hfirst := hv _ (stops_quotedRest shows vs hrest)
      have htext : (quotedRest shows (v :: vs)).toList ++ rest =
          ' ' :: ((v.quotedBy shows).toList ++ ((quotedRest shows vs).toList ++ rest)) := by
        simp [quotedRest]
      rw [htext, piecesOfAll]
      exact .cut rfl (hfirst.append (ih hvs))

theorem Plain.read (shows : Char → Bool) {v : Value} (h : v.Plain) {rest : List Char}
    (hrest : Stops rest) :
    Piece.Read ((v.quotedBy shows).toList ++ rest) (v.pieces shows) rest := by
  induction h generalizing rest with
  | int i => exact Piece.read_int i hrest
  | @text s hs =>
      rw [pieces, quotedBy, escaped, hs]
      exact Piece.read_quoted shows s rest
  | keyword hkey hword =>
      have hread := Piece.read_keyword hword hrest
      rw [← toList_of_keyOf? hkey, String.ofList_toList] at hread
      rw [pieces, quotedBy, hkey]
      exact hread
  | @form head items hhead hitems ih =>
      have hclose : Piece.Read (')' :: rest) [⟨.token .closeParen (.str ")"), [')']⟩] rest :=
        .cut rfl (.done rest)
      have hrest' := read_quotedRest (fun v hv rest => ih v hv) (stops_closing rest)
      have hhead' := hhead.read (stops_quotedRest shows items (stops_closing rest))
      have htext : (quotedBy shows (.list (.str head :: items))).toList ++ rest =
          '(' :: (head.toList ++ ((quotedRest shows items).toList ++ ')' :: rest)) := by
        simp [quotedBy]
      rw [htext, pieces]
      exact .cut rfl (hhead'.append (hrest'.append hclose))

section parse

open Program

variable {shows : Char → Bool} {max : Nat} {echo : String} {items : List Value}
  {outer : List (List Value)} {ts : List Token}

theorem parseIn_piecesOfAll {vs : List Value}
    (h : ∀ v ∈ vs, ∀ {items offset ts},
      parseIn max echo items outer (Piece.tokensFrom offset (v.pieces shows) ++ ts) =
        parseIn max echo (v.escaped shows :: items) outer ts) (offset : Nat) :
    parseIn max echo items outer (Piece.tokensFrom offset (piecesOfAll shows vs) ++ ts) =
      parseIn max echo ((vs.map (escaped shows)).reverse ++ items) outer ts := by
  induction vs generalizing items offset with
  | nil => rfl
  | cons v vs ih =>
      obtain ⟨hv, hvs⟩ := List.forall_mem_cons.mp h
      rw [piecesOfAll, Piece.tokensFrom_cons, Piece.tokensFrom_append]
      simp only [Piece.tokensFrom, List.nil_append, List.append_assoc]
      rw [hv, ih hvs]
      simp

theorem Plain.parseIn {v : Value} (h : v.Plain) (hdepth : outer.length + v.nesting ≤ max)
    (offset : Nat) :
    parseIn max echo items outer (Piece.tokensFrom offset (v.pieces shows) ++ ts) =
      parseIn max echo (v.escaped shows :: items) outer ts := by
  induction h generalizing items outer offset ts with
  | int i => exact parseIn_atom rfl
  | @text s hs =>
      rw [pieces, hs]
      exact parseIn_atom rfl
  | keyword hkey hword =>
      rw [pieces, escaped, hkey]
      exact parseIn_atom rfl
  | @form head vs hhead hitems ih =>
      have hnesting : nesting (.list (.str head :: vs)) = nestingOfAll vs + 1 := by
        simp [nesting, nestingOfAll]
      have hopen : ¬ max ≤ outer.length := by omega
      have hitems' : ∀ v ∈ vs, ∀ {its : List Value} {offset ts},
          Program.parseIn max echo its (items :: outer)
              (Piece.tokensFrom offset (v.pieces shows) ++ ts) =
            Program.parseIn max echo (v.escaped shows :: its) (items :: outer) ts := by
        intro v hv its offset ts
        have hle := nesting_le_of_mem hv
        exact ih v hv (by rw [List.length_cons]; omega) offset
      have hclose : closeGroup echo ((vs.map (escaped shows)).reverse ++ [Value.str head]).reverse =
          .ok (some (.list (.str head :: vs.map (escaped shows)))) := by
        rw [closeGroup_eq_ok_iff, List.reverse_append, List.reverse_reverse]
        exact ⟨fun _ => ⟨head, _, rfl, hhead.not_keyword⟩, rfl⟩
      rw [pieces, Piece.tokensFrom_cons, Piece.tokensFrom_cons ⟨.token .symbol _, _⟩,
        Piece.tokensFrom_append]
      simp only [Piece.tokensFrom, List.cons_append, List.nil_append, List.append_assoc]
      rw [parseIn_open rfl, if_neg hopen, parseIn_atom rfl, parseIn_piecesOfAll hitems',
        parseIn_close rfl hclose, escaped, escapedAll_eq_map]
      rfl

end parse

theorem Plain.escaped_eq_self {shows : Char → Bool} {v : Value} (h : v.Plain)
    (htexts : ∀ s ∈ v.texts, Text.escape shows s.toList = s.toList) : v.escaped shows = v := by
  induction h with
  | int i => rfl
  | @text s hs =>
      have hescape : Text.escape shows s.toList = s.toList := htexts s (by simp [texts, hs])
      rw [escaped, hs, hescape, String.ofList_toList]
      rfl
  | keyword hkey hword =>
      rw [escaped, hkey]
      rfl
  | @form head items hhead hitems ih =>
      have hall : items.map (escaped shows) = items := by
        refine List.map_congr_left (fun v hv => ?_) |>.trans (List.map_id _)
        refine ih v hv fun s hs => htexts s ?_
        rw [texts, textsOfAll_eq_flatMap]
        exact List.mem_flatMap.mpr ⟨v, hv, hs⟩
      rw [escaped, escapedAll_eq_map, hall]

theorem quoted_reads_back (shows : Char → Bool) {v : Value} (h : v.Plain) :
    (∀ bound, v.nesting ≤ bound → ∀ origin echo, ∃ tokens,
      Token.scan origin (v.quotedBy shows) = .ok tokens ∧
        Program.parse bound echo tokens = .ok [v.escaped shows]) ∧
    (∀ (axioms : Axioms) origin, v.nesting ≤ axioms.limits.parseDepth →
      axioms.checkPhrases (v.quotedBy shows) = .ok () →
        Program.read axioms origin (v.quotedBy shows) =
          .ok ⟨[v.escaped shows], intentionsOf (v.quotedBy shows)⟩) ∧
    ((∀ s ∈ v.texts, Text.escape shows s.toList = s.toList) → v.escaped shows = v) := by
  have hread := h.read shows stops_nil
  rw [List.append_nil] at hread
  have hparse : ∀ bound echo, v.nesting ≤ bound →
      Program.parse bound echo (Piece.tokensFrom 0 (v.pieces shows)) = .ok [v.escaped shows] := by
    intro bound echo hbound
    have hdepth : ([] : List (List Value)).length + v.nesting ≤ Nat.max bound 1 := by
      rw [List.length_nil, Nat.zero_add]
      exact Nat.le_trans hbound (Nat.le_max_left _ _)
    have hone : Program.parseIn (Nat.max bound 1) echo [] []
        (Piece.tokensFrom 0 (v.pieces shows) ++ []) = .ok [v.escaped shows] := h.parseIn hdepth 0
    rwa [List.append_nil] at hone
  refine ⟨fun bound hbound origin echo => ?_, fun axioms origin hbound hphrases => ?_, ?_⟩
  · exact ⟨_, Token.scan_of_read hread, hparse bound echo hbound⟩
  · exact Program.read_eq_ok_iff.mpr
      ⟨hphrases, _, Token.scan_of_read hread, _, hparse _ _ hbound, rfl⟩
  · exact h.escaped_eq_self

def saying : Value :=
  .list [.str "né", .str "a \"b\"\n;; c", .str ":k;", .int Int64.minValue,
    .list [.str "Sigma", .str "\\"]]

theorem saying_reads_back : saying.Plain ∧ saying.nesting ≤ 2 ∧ ∃ tokens,
    Token.scan "" saying.quoted = .ok tokens ∧ Program.parse 2 "" tokens =
      .ok [.list [.str "né", .str "a \\\"b\\\"\\n;; c", .str ":k;", .int Int64.minValue,
        .list [.str "Sigma", .str "\\\\"]]] := by
  have hhead {head : String} (hword : Piece.IsWord head.toList)
      (hlt : head.toList.all fun c => decide (c.toNat < 0x300))
      (hstart : ∃ c ∈ head.toList.head?, Piece.isSymbolStart c = true) : IsHead head :=
    ⟨hstart, hword, Text.composed_of_lt fun c hc =>
      of_decide_eq_true (List.all_eq_true.mp hlt c hc)⟩
  have hinner : Plain (.list [.str "Sigma", .str "\\"]) :=
    .form (hhead (by decide) (by decide) ⟨'S', rfl, by decide⟩)
      (List.forall_mem_singleton.mpr (.text rfl))
  have hitems : ∀ v ∈ [Value.str "a \"b\"\n;; c", .str ":k;", .int Int64.minValue,
      .list [.str "Sigma", .str "\\"]], v.Plain := by
    simp only [List.forall_mem_cons, List.not_mem_nil, false_implies, implies_true, and_true]
    exact ⟨.text rfl, .keyword rfl (by decide), .int _, hinner⟩
  have hplain : saying.Plain := .form (hhead (by decide) (by decide) ⟨'n', rfl, by decide⟩) hitems
  exact ⟨hplain, by decide, (quoted_reads_back Text.isVisible hplain).1 2 (by decide) "" ""⟩

end Value

end GestureGraph
