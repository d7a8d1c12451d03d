import GestureGraph.Token

/-!
Scanning by index. The characters of a text stand in one list with their offsets, a cursor moves
along that list, and what a token stands on is cut out of the text between two offsets. Every access
is checked: an index beyond the end, or an offset that is beyond the end or inside a character,
gives nothing. The scan by index gives what the scan by pieces gives, so no access ever fails.
-/

namespace GestureGraph

theorem byteSize_eq (cs : List Char) : byteSize cs = (String.ofList cs).utf8ByteSize := by
  induction cs with
  | nil => rfl
  | cons c cs ih =>
      rw [byteSize, ih, ← List.singleton_append, String.ofList_append, String.utf8ByteSize_append,
        ← String.singleton_eq_ofList, String.utf8ByteSize_singleton]

theorem byteSize_toList (source : String) : byteSize source.toList = source.utf8ByteSize := by
  rw [byteSize_eq, String.ofList_toList]

theorem byteSize_pos {cs : List Char} (h : cs ≠ []) : 0 < byteSize cs := by
  cases cs with
  | nil => exact absurd rfl h
  | cons c cs =>
      have hc := c.utf8Size_pos
      rw [byteSize]
      omega

theorem byteSize_le_of_append {source : String} {pre post : List Char}
    (h : source.toList = pre ++ post) : byteSize pre ≤ source.utf8ByteSize := by
  rw [← byteSize_toList, h, byteSize_append]
  exact Nat.le_add_right _ _

instance isValidDecidable (source : String) (offset : String.Pos.Raw) :
    Decidable (offset.IsValid source) :=
  decidable_of_iff _ String.Pos.Raw.isValid_eq_true_iff

def slice? (source : String) (start stop : Nat) : Option (List Char) :=
  if h : (String.Pos.Raw.mk start).IsValid source ∧ (String.Pos.Raw.mk stop).IsValid source ∧
      start ≤ stop then
    some (source.extract (source.pos ⟨start⟩ h.1) (source.pos ⟨stop⟩ h.2.1)).toList
  else none

theorem isValid_of_append {source : String} {pre post : List Char}
    (h : source.toList = pre ++ post) : (String.Pos.Raw.mk (byteSize pre)).IsValid source := by
  rw [String.Pos.Raw.isValid_iff_exists_append]
  refine ⟨String.ofList pre, String.ofList post, ?_, ?_⟩
  · rw [← String.ofList_append, ← h, String.ofList_toList]
  · exact congrArg String.Pos.Raw.mk (byteSize_eq pre)

theorem extract_bytes {source : String} {pre text post : List Char}
    (h : source.toList = pre ++ text ++ post) :
    source.toByteArray.extract (byteSize pre) (byteSize (pre ++ text)) =
      (String.ofList text).toByteArray := by
  have hs : source = String.ofList pre ++ (String.ofList text ++ String.ofList post) := by
    rw [← String.ofList_append, ← String.ofList_append, ← List.append_assoc, ← h,
      String.ofList_toList]
  have hpre : byteSize pre = (String.ofList pre).toByteArray.size := by
    rw [byteSize_eq, String.size_toByteArray]
  have htext : byteSize text = (String.ofList text).toByteArray.size := by
    rw [byteSize_eq, String.size_toByteArray]
  rw [byteSize_append, hpre, htext, hs, String.toByteArray_append, String.toByteArray_append,
    ← ByteArray.append_assoc, ByteArray.append_assoc]
  calc _ = ((String.ofList text).toByteArray ++ (String.ofList post).toByteArray).extract 0
        (String.ofList text).toByteArray.size := ByteArray.extract_append_size_add
    _ = _ := ByteArray.extract_append_eq_left rfl

theorem slice?_of_append {source : String} {pre text post : List Char}
    (h : source.toList = pre ++ text ++ post) :
    slice? source (byteSize pre) (byteSize (pre ++ text)) = some text := by
  have hstart : (String.Pos.Raw.mk (byteSize pre)).IsValid source :=
    isValid_of_append (h.trans (List.append_assoc ..))
  have hstop : (String.Pos.Raw.mk (byteSize (pre ++ text))).IsValid source := isValid_of_append h
  have hle : byteSize pre ≤ byteSize (pre ++ text) := by simp
  have htext : source.extract (source.pos _ hstart) (source.pos _ hstop) = String.ofList text := by
    rw [← String.toByteArray_inj, String.toByteArray_extract]
    exact extract_bytes h
  rw [slice?, dif_pos ⟨hstart, hstop, hle⟩, htext, String.toList_ofList]

theorem slice?_to_end {source : String} {pre post : List Char}
    (h : source.toList = pre ++ post) :
    slice? source (byteSize pre) source.utf8ByteSize = some post := by
  have hslice := slice?_of_append (h.trans (List.append_nil _).symm)
  rwa [← h, byteSize_toList] at hslice

def placesFrom (offset : Nat) : List Char → List (Nat × Char)
  | [] => []
  | c :: cs => (offset, c) :: placesFrom (offset + c.utf8Size) cs

def places (source : String) : List (Nat × Char) := placesFrom 0 source.toList

theorem length_placesFrom (offset : Nat) (cs : List Char) :
    (placesFrom offset cs).length = cs.length := by
  induction cs generalizing offset with
  | nil => rfl
  | cons c cs ih => simp [placesFrom, ih]

theorem getElem?_placesFrom (offset : Nat) (pre rest : List Char) :
    (placesFrom offset (pre ++ rest))[pre.length]? =
      rest.head?.map (offset + byteSize pre, ·) := by
  induction pre generalizing offset with
  | nil => cases rest <;> simp [placesFrom]
  | cons c pre ih => simp [placesFrom, ih, byteSize, Nat.add_assoc]

section places

variable {source : String} {pre rest : List Char}

theorem getElem?_places (h : source.toList = pre ++ rest) :
    (places source)[pre.length]? = rest.head?.map (byteSize pre, ·) := by
  rw [places, h, getElem?_placesFrom, Nat.zero_add]

theorem length_places (h : source.toList = pre ++ rest) :
    (places source).length = pre.length + rest.length := by
  rw [places, length_placesFrom, h, List.length_append]

theorem lt_length_places {c : Char} (h : source.toList = pre ++ c :: rest) :
    pre.length < (places source).length := by
  simp [length_places h]

theorem getElem?_places_cons {c : Char} (h : source.toList = pre ++ c :: rest) :
    (places source)[pre.length]? = some (byteSize pre, c) := by
  rw [getElem?_places h]
  rfl

theorem getElem?_places_next {c : Char} (h : source.toList = pre ++ c :: rest) :
    (places source)[pre.length + 1]? = rest.head?.map (byteSize (pre ++ [c]), ·) := by
  have h' : source.toList = (pre ++ [c]) ++ rest := h.trans (List.append_cons ..)
  have hget := getElem?_places h'
  rwa [List.length_append] at hget

end places

theorem Piece.isNumberChar_of_isDigit {c : Char} (h : Decimal.isDigit c = true) :
    isNumberChar c = true := by
  rw [isNumberChar, h, Bool.true_or]

theorem Piece.tokensFrom_cons (p : Piece) (ps : List Piece) (offset : Nat) :
    tokensFrom offset (p :: ps) =
      tokensFrom offset [p] ++ tokensFrom (offset + byteSize p.text) ps := by
  cases hk : p.kind <;> simp [tokensFrom, hk]

theorem Piece.scan_nil : scan [] = ([], none) := by
  unfold scan
  rfl

theorem Piece.scan_of_cut {c : Char} {cs rest : List Char} {p : Piece} {ps : List Piece}
    {fault? : Option Fault} (h : cut c cs = .ok (p, rest)) (hs : scan rest = (ps, fault?)) :
    scan (c :: cs) = (p :: ps, fault?) := by
  unfold scan
  split
  · rename_i h'
    rw [h] at h'
    cases h'
  · rename_i h'
    rw [h] at h'
    cases h'
    rw [hs]

namespace Cursor

section moves

variable (chars : List (Nat × Char))

def advance (holds? : Nat → Char → Option Bool) (i : Nat) : Option Nat :=
  if i < chars.length then do
    let (_, c) ← chars[i]?
    if ← holds? i c then some i else advance holds? (i + 1)
  else some i
termination_by chars.length - i

/-- Moves on to a closing quote. A backslash makes it two steps, which may lead beyond the end. -/
def quoteEnd (i : Nat) : Option Nat :=
  if i < chars.length then do
    let (_, c) ← chars[i]?
    if c = '"' then some i else quoteEnd (i + if c = '\\' then 2 else 1)
  else some i
termination_by chars.length - i
decreasing_by all_goals split <;> omega

def startsComment (i : Nat) : Option Bool := do
  let (_, c) ← chars[i]?
  return c = ';' && chars[i + 1]?.map (·.2) = some ';'

def lineEnd : Nat → Option Nat := advance chars fun _ c => some (c = '\n')

def wordEnd : Nat → Option Nat := advance chars fun i c =>
  if Text.isBlank c || c = '(' || c = ')' then some true else startsComment chars i

def numberEnd : Nat → Option Nat := advance chars fun _ c => some (!Piece.isNumberChar c)

def startsNumber (i : Nat) (c : Char) : Bool :=
  Decimal.isDigit c || (c = '-' && (chars[i + 1]?.map fun e => Decimal.isDigit e.2).getD false)

def byteAt (i size : Nat) : Nat := (chars[i]?.map (·.1)).getD size

end moves

section reading

variable (source origin : String) (chars : List (Nat × Char))

def readString (i : Nat) : Option (Except SyntaxError (List Token × Nat)) := do
  let (start, _) ← chars[i]?
  let close ← quoteEnd chars (i + 1)
  if chars.length ≤ close then some (.error (.unterminatedString start origin))
  else do
    let (stop, _) ← chars[close]?
    let text ← slice? source (start + 1) stop
    some (.ok ([⟨.string, .str (String.ofList text), start, stop + 1⟩], close + 1))

def readWord (kind : TokenKind) (i : Nat) : Option (Except SyntaxError (List Token × Nat)) := do
  let j ← wordEnd chars (i + 1)
  let (start, _) ← chars[i]?
  let stop := byteAt chars j source.utf8ByteSize
  let raw ← slice? source start stop
  let text := if kind = .symbol then Text.composed raw else raw
  some (.ok ([⟨kind, .str (String.ofList text), start, stop⟩], j))

def readNumber (i : Nat) : Option (Except SyntaxError (List Token × Nat)) := do
  let (start, c) ← chars[i]?
  let j ← numberEnd chars (if c = '-' then i + 1 else i)
  let stop := byteAt chars j source.utf8ByteSize
  let lexeme ← slice? source start stop
  match readNumber? lexeme with
  | some value => some (.ok ([⟨.number, value, start, stop⟩], j))
  | none => some (.error (.invalidNumber (String.ofList lexeme) start origin))

def step (i : Nat) : Option (Except SyntaxError (List Token × Nat)) := do
  let (offset, c) ← chars[i]?
  if Text.isBlank c then some (.ok ([], i + 1))
  else do
    let comment ← startsComment chars i
    if comment then do
      let j ← lineEnd chars i
      some (.ok ([], j))
    else if c = '(' then some (.ok ([⟨.openParen, .str "(", offset, offset + 1⟩], i + 1))
    else if c = ')' then some (.ok ([⟨.closeParen, .str ")", offset, offset + 1⟩], i + 1))
    else if c = '"' then readString source origin chars i
    else if c = ':' then readWord source chars .keyword i
    else if startsNumber chars i c then readNumber source origin chars i
    else if Piece.isSymbolStart c then readWord source chars .symbol i
    else some (.error (.unexpectedChar c offset origin))

/-- Goes through the text from the cursor on. There is no result either where the cursor stays. -/
def scanFrom (tokens : List Token) (i : Nat) : Option (Except SyntaxError (List Token)) :=
  if i < chars.length then do
    match ← step source origin chars i with
    | .error e => some (.error e)
    | .ok (more, j) => if i < j then scanFrom (tokens ++ more) j else none
  else some (.ok tokens)
termination_by chars.length - i

end reading

def scan (origin source : String) : Option (Except SyntaxError (List Token)) :=
  scanFrom source origin (places source) [] 0

def leading (p : Char → List Char → Bool) : List Char → List Char
  | [] => []
  | c :: cs => if p c cs then [] else c :: leading p cs

variable {source origin : String} {pre rest cs : List Char} {c : Char}

theorem advance_eq {holds? : Nat → Char → Option Bool} {p : Char → List Char → Bool}
    (hp : ∀ pre c cs, source.toList = pre ++ c :: cs → holds? pre.length c = some (p c cs))
    (h : source.toList = pre ++ rest) :
    advance (places source) holds? pre.length = some (pre ++ leading p rest).length := by
  induction rest generalizing pre with
  | nil =>
      have hlen := length_places h
      rw [advance, if_neg (by simp [hlen]), leading, List.append_nil]
  | cons c cs ih =>
      have h' : source.toList = (pre ++ [c]) ++ cs := h.trans (List.append_cons ..)
      rw [advance, if_pos (lt_length_places h)]
      simp only [getElem?_places_cons h, Option.bind_eq_bind, Option.bind_some, hp pre c cs h]
      cases hc : p c cs with
      | true => simp [leading, hc]
      | false =>
          have hnext := ih h'
          rw [List.length_append, List.append_assoc] at hnext
          simpa [leading, hc] using hnext

theorem leading_eq_takeWhile {p : Char → List Char → Bool} {q : Char → Bool}
    (h : ∀ c cs, p c cs = !q c) (cs : List Char) : leading p cs = cs.takeWhile q := by
  induction cs with
  | nil => rfl
  | cons c cs ih => cases hq : q c <;> simp [leading, h, hq, ih]

theorem startsComment_eq (h : source.toList = pre ++ c :: cs) :
    startsComment (places source) pre.length = some (Piece.startsComment c cs) := by
  rw [startsComment, getElem?_places_cons h]
  simp only [Option.bind_eq_bind, Option.bind_some, getElem?_places_next h]
  cases cs <;> simp [Piece.startsComment]

theorem lineEnd_eq (h : source.toList = pre ++ rest) :
    lineEnd (places source) pre.length =
      some (pre ++ rest.takeWhile (· ≠ '\n')).length := by
  rw [lineEnd, advance_eq (p := fun c _ => decide (c = '\n')) (fun _ _ _ _ => rfl) h,
    leading_eq_takeWhile (q := (· ≠ '\n')) (by simp)]

theorem numberEnd_eq (h : source.toList = pre ++ rest) :
    numberEnd (places source) pre.length =
      some (pre ++ rest.takeWhile Piece.isNumberChar).length := by
  rw [numberEnd, advance_eq (p := fun c _ => !Piece.isNumberChar c) (fun _ _ _ _ => rfl) h,
    leading_eq_takeWhile (q := Piece.isNumberChar) (by simp)]

def endsWord (c : Char) (cs : List Char) : Bool :=
  Text.isBlank c || c = '(' || c = ')' || Piece.startsComment c cs

theorem leading_endsWord (cs : List Char) : leading endsWord cs = (Piece.cutWord cs).1 := by
  induction cs with
  | nil => rfl
  | cons c cs ih =>
      simp only [leading, Piece.cutWord, endsWord, ih]
      split <;> simp

theorem wordEnd_eq (h : source.toList = pre ++ rest) :
    wordEnd (places source) pre.length = some (pre ++ (Piece.cutWord rest).1).length := by
  rw [wordEnd, advance_eq (p := endsWord) ?_ h, leading_endsWord]
  intro pre c cs h
  rw [startsComment_eq h, endsWord]
  split
  · rename_i hc
    rw [hc, Bool.true_or]
  · rename_i hc
    rw [Bool.eq_false_iff.mpr hc, Bool.false_or]

theorem byteAt_eq (h : source.toList = pre ++ rest) :
    byteAt (places source) pre.length source.utf8ByteSize = byteSize pre := by
  rw [byteAt, getElem?_places h]
  cases rest with
  | nil =>
      rw [List.append_nil] at h
      simp [← h, byteSize_toList]
  | cons c cs => rfl

theorem startsNumber_eq (h : source.toList = pre ++ c :: cs) :
    startsNumber (places source) pre.length c = Piece.startsNumber c cs := by
  rw [startsNumber, getElem?_places_next h, Piece.startsNumber]
  cases cs <;> rfl

theorem quoteEnd_of_lt (h : source.toList = pre ++ c :: cs) :
    quoteEnd (places source) pre.length =
      if c = '"' then some pre.length
      else quoteEnd (places source) (pre.length + if c = '\\' then 2 else 1) := by
  rw [quoteEnd, if_pos (lt_length_places h)]
  simp only [getElem?_places_cons h, Option.bind_eq_bind, Option.bind_some]

theorem quoteEnd_of_le {i : Nat} (h : (places source).length ≤ i) :
    quoteEnd (places source) i = some i := by
  rw [quoteEnd, if_neg (Nat.not_lt.mpr h)]

def FindsQuote (source : String) (pre : List Char) : Option (List Char × List Char) → Prop
  | some (body, _) => ∃ inner, body = inner ++ ['"'] ∧
      quoteEnd (places source) pre.length = some (pre ++ inner).length
  | none => ∃ j, quoteEnd (places source) pre.length = some j ∧ (places source).length ≤ j

theorem FindsQuote.skip {skipped : List Char} {cut? : Option (List Char × List Char)}
    (h : FindsQuote source (pre ++ skipped) cut?)
    (hskip : quoteEnd (places source) pre.length =
      quoteEnd (places source) (pre ++ skipped).length) :
    FindsQuote source pre (cut?.map fun (body, rest) => (skipped ++ body, rest)) := by
  cases cut? with
  | none =>
      obtain ⟨j, hj, hle⟩ := h
      exact ⟨j, hskip.trans hj, hle⟩
  | some cut =>
      obtain ⟨inner, hbody, hinner⟩ := h
      refine ⟨skipped ++ inner, ?_, ?_⟩
      · rw [hbody, List.append_assoc]
      · rw [hskip, hinner, List.append_assoc]

theorem findsQuote (h : source.toList = pre ++ rest) :
    FindsQuote source pre (Piece.cutString? rest) := by
  fun_induction Piece.cutString? rest generalizing pre with
  | case1 =>
      have hle : (places source).length ≤ pre.length := by simp [length_places h]
      exact ⟨pre.length, quoteEnd_of_le hle, hle⟩
  | case2 cs => exact ⟨[], rfl, by simp [quoteEnd_of_lt h]⟩
  | case3 c cs ih =>
      have h' : source.toList = (pre ++ ['\\', c]) ++ cs := by rw [h, List.append_assoc]; rfl
      refine FindsQuote.skip (ih h') ?_
      rw [quoteEnd_of_lt h, List.length_append]
      rfl
  | case4 c cs hq hs ih =>
      have h' : source.toList = (pre ++ [c]) ++ cs := h.trans (List.append_cons ..)
      by_cases hc : c = '\\'
      · -- the text ends with a backslash, and the step behind it leads beyond the end
        obtain rfl : cs = [] := List.eq_nil_iff_forall_not_mem.mpr fun _ hm => by
          obtain ⟨d, ds, rfl⟩ := List.exists_cons_of_ne_nil (List.ne_nil_of_mem hm)
          exact hs d ds hc rfl
        have hle : (places source).length ≤ pre.length + 2 := by simp [length_places h]
        refine ⟨pre.length + 2, ?_, hle⟩
        rw [quoteEnd_of_lt h, if_neg hq, if_pos hc, quoteEnd_of_le hle]
      · refine FindsQuote.skip (ih h') ?_
        rw [quoteEnd_of_lt h, if_neg hq, if_neg hc, List.length_append]
        rfl

def outcome (origin : String) (pre : List Char) :
    Except Fault (Piece × List Char) → Except SyntaxError (List Token × Nat)
  | .error fault => .error (fault.locate (byteSize pre) origin)
  | .ok (p, _) => .ok (Piece.tokensFrom (byteSize pre) [p], (pre ++ p.text).length)

theorem outcome_ofKind {kind : TokenKind} {text : List Char} {value : Value}
    (h : kind.read? text = some value) :
    outcome origin pre ((Piece.ofKind kind text).map (·, rest)) =
      .ok ([⟨kind, value, byteSize pre, byteSize (pre ++ text)⟩], (pre ++ text).length) := by
  simp [Piece.ofKind, h, Except.map, outcome, Piece.tokensFrom]

theorem byteSize_quote : byteSize ['"'] = 1 := rfl

theorem byteSize_cons_quote (cs : List Char) : byteSize ('"' :: cs) = 1 + byteSize cs := rfl

theorem readString_eq (h : source.toList = pre ++ '"' :: cs) :
    readString source origin (places source) pre.length = some (outcome origin pre
      (match Piece.cutString? cs with
        | some (body, rest) => (Piece.ofKind .string ('"' :: body)).map (·, rest)
        | none => .error .unterminatedString)) := by
  have h' : source.toList = (pre ++ ['"']) ++ cs := h.trans (List.append_cons ..)
  have hquote := findsQuote h'
  rw [readString, getElem?_places_cons h]
  simp only [Option.bind_eq_bind, Option.bind_some]
  cases hcut : Piece.cutString? cs with
  | none =>
      rw [hcut] at hquote
      obtain ⟨j, hj, hle⟩ := hquote
      rw [List.length_append, List.length_singleton] at hj
      rw [hj, Option.bind_some, if_pos hle]
      rfl
  | some cut =>
      obtain ⟨body, rest⟩ := cut
      rw [hcut] at hquote
      obtain ⟨inner, rfl, hj⟩ := hquote
      rw [List.length_append, List.length_singleton] at hj
      have hclose : source.toList = (pre ++ ['"'] ++ inner) ++ '"' :: rest := by
        rw [h', ← Piece.append_cutString? hcut]
        simp
      have hslice := slice?_of_append hclose
      rw [byteSize_append pre, byteSize_quote] at hslice
      rw [hj, Option.bind_some, if_neg (Nat.not_le.mpr (lt_length_places hclose)),
        getElem?_places_cons hclose]
      simp only [Option.bind_some, hslice]
      have hread : TokenKind.string.read? ('"' :: (inner ++ ['"'])) =
          some (.str (String.ofList inner)) := by
        simp [TokenKind.read?]
      simp only [outcome_ofKind hread]
      simp [byteSize_cons_quote, Nat.add_assoc]

theorem readWord_eq {kind : TokenKind} (h : source.toList = pre ++ c :: cs)
    (hkind : kind = .keyword ∨ kind = .symbol) :
    readWord source (places source) kind pre.length = some (outcome origin pre
      ((Piece.ofKind kind (c :: (Piece.cutWord cs).1)).map (·, (Piece.cutWord cs).2))) := by
  have h' : source.toList = (pre ++ [c]) ++ cs := h.trans (List.append_cons ..)
  have hend := wordEnd_eq h'
  rw [List.append_assoc, List.length_append, List.length_singleton] at hend
  have hcut : source.toList = pre ++ (c :: (Piece.cutWord cs).1) ++ (Piece.cutWord cs).2 := by
    rw [List.append_assoc, List.cons_append, Piece.append_cutWord, h]
  have hread : kind.read? (c :: (Piece.cutWord cs).1) = some (.str (String.ofList
      (if kind = .symbol then Text.composed (c :: (Piece.cutWord cs).1)
        else c :: (Piece.cutWord cs).1))) := by
    rcases hkind with rfl | rfl <;> rfl
  rw [outcome_ofKind hread, readWord, hend]
  simp only [Option.bind_eq_bind, Option.bind_some, getElem?_places_cons h]
  rw [List.singleton_append, byteAt_eq hcut, slice?_of_append hcut]
  rfl

theorem readNumber_eq (h : source.toList = pre ++ c :: cs)
    (hc : Piece.startsNumber c cs = true) :
    readNumber source origin (places source) pre.length = some (outcome origin pre
      ((Piece.ofKind .number (c :: cs.takeWhile Piece.isNumberChar)).map
        (·, cs.dropWhile Piece.isNumberChar))) := by
  have h' : source.toList = (pre ++ [c]) ++ cs := h.trans (List.append_cons ..)
  have hcut : source.toList = pre ++ (c :: cs.takeWhile Piece.isNumberChar) ++
      cs.dropWhile Piece.isNumberChar := by
    rw [List.append_assoc, List.cons_append, List.takeWhile_append_dropWhile, h]
  have hend : numberEnd (places source) (if c = '-' then pre.length + 1 else pre.length) =
      some (pre ++ c :: cs.takeWhile Piece.isNumberChar).length := by
    split
    · have hend := numberEnd_eq h'
      rwa [List.append_assoc, List.length_append, List.length_singleton] at hend
    · rename_i hminus
      have hdigit : Piece.isNumberChar c = true := by
        simp_all [Piece.startsNumber, Piece.isNumberChar]
      rw [numberEnd_eq h, List.takeWhile_cons_of_pos hdigit]
  rw [readNumber, getElem?_places_cons h]
  simp only [Option.bind_eq_bind, Option.bind_some, hend, byteAt_eq hcut, slice?_of_append hcut]
  cases hread : readNumber? (c :: cs.takeWhile Piece.isNumberChar) with
  | some value =>
      have hvalue : TokenKind.number.read? _ = some value := hread
      rw [outcome_ofKind hvalue]
  | none => simp [Piece.ofKind, TokenKind.read?, hread, Except.map, outcome, Fault.locate]

theorem step_eq (h : source.toList = pre ++ c :: cs) :
    step source origin (places source) pre.length =
      some (outcome origin pre (Piece.cut c cs)) := by
  rw [step, getElem?_places_cons h]
  simp only [Option.bind_eq_bind, Option.bind_some, startsComment_eq h, Piece.cut]
  split
  · simp [outcome, Piece.tokensFrom]
  split
  · rename_i hc
    have hplain : c ≠ '\n' := by
      simp only [Piece.startsComment, Bool.and_eq_true, decide_eq_true_eq] at hc
      rw [hc.1]
      decide
    rw [lineEnd_eq h, List.takeWhile_cons_of_pos (by simpa using hplain)]
    rfl
  split
  · rename_i hc
    subst hc
    rw [outcome_ofKind rfl, byteSize_append, List.length_append]
    rfl
  split
  · rename_i hc
    subst hc
    rw [outcome_ofKind rfl, byteSize_append, List.length_append]
    rfl
  split
  · rename_i hc
    subst hc
    exact readString_eq h
  split
  · exact readWord_eq h (.inl rfl)
  rw [startsNumber_eq h]
  split
  · exact readNumber_eq h ‹_›
  split
  · exact readWord_eq h (.inr rfl)
  · rfl

def summary (origin : String) (pre : List Char) (tokens : List Token) :
    List Piece × Option Fault → Except SyntaxError (List Token)
  | (pieces, none) => .ok (tokens ++ Piece.tokensFrom (byteSize pre) pieces)
  | (pieces, some fault) => .error (fault.locate (byteSize (pre ++ Piece.joined pieces)) origin)

theorem scanFrom_eq {tokens : List Token} (h : source.toList = pre ++ rest) :
    scanFrom source origin (places source) tokens pre.length =
      some (summary origin pre tokens (Piece.scan rest)) := by
  -- What is behind the cursor, `pre`, gives both its index and its offset.
  fun_induction Piece.scan rest generalizing pre tokens with
  | case1 =>
      have hle : ¬ pre.length < (places source).length := by simp [length_places h]
      rw [scanFrom, if_neg hle]
      simp [summary, Piece.tokensFrom]
  | case2 c cs fault hcut =>
      rw [scanFrom, if_pos (lt_length_places h), step_eq h, hcut]
      simp [summary, outcome, Piece.joined]
  | case3 c cs piece rest hcut _ pieces fault? hscan ih =>
      have h' : source.toList = (pre ++ piece.text) ++ rest := by
        rw [h, ← (Piece.cut_append hcut).2, List.append_assoc]
      have hmoves : pre.length < (pre ++ piece.text).length := by
        have hpos := List.length_pos_iff.mpr (Piece.cut_append hcut).1
        rw [List.length_append]
        omega
      rw [scanFrom, if_pos (lt_length_places h), step_eq h, hcut]
      simp only [Option.bind_eq_bind, Option.bind_some, outcome, if_pos hmoves, ih h', hscan]
      cases fault? with
      | some fault => simp [summary, Piece.joined]
      | none =>
          simp only [summary, byteSize_append, List.append_assoc]
          rw [Piece.tokensFrom_cons piece pieces]

theorem scan_eq (origin source : String) :
    scan origin source = some (Token.scan origin source) := by
  have h : source.toList = [] ++ source.toList := rfl
  rw [scan, Token.scan]
  refine (scanFrom_eq h).trans ?_
  cases hscan : Piece.scan source.toList with
  | mk pieces fault? => cases fault? <;> simp [summary]

end Cursor

end GestureGraph
