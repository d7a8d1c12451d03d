import GestureGraph.Json
import GestureGraph.Proofs.Quotation
import GestureGraph.Text.Ranges

/-!
Compact JSON without floats is unambiguous. A text begins with a character of its kind, strings and
lists have their ends in themselves, and a number ends where a delimiter follows; so a text tells
which tree it was written from, and a value is told up to failures, which are written as strings.
-/

namespace GestureGraph

def Closes (rest : List Char) : Prop := ∀ c ∈ rest.head?, c = ',' ∨ c = ']' ∨ c = '\x7d'

theorem closes_nil : Closes [] := by simp [Closes]

theorem closes_cons {c : Char} (h : c = ',' ∨ c = ']' ∨ c = '\x7d') (rest : List Char) :
    Closes (c :: rest) := by simpa [Closes] using h

/-- From a text written before a delimiter it can be told what was written and what follows. -/
def TellsApart {α : Type} (write : α → List Char) (a b : α) : Prop :=
  ∀ ⦃r s : List Char⦄, Closes r → Closes s → write a ++ r = write b ++ s → a = b ∧ r = s

namespace Json

def unescape? : List Char → Option (Char × List Char)
  | '\\' :: 'u' :: a :: b :: c :: d :: rest => some (Char.ofNat (Text.hexNat [a, b, c, d]), rest)
  | '\\' :: 'b' :: rest => some (Char.ofNat 8, rest)
  | '\\' :: 'f' :: rest => some (Char.ofNat 12, rest)
  | '\\' :: 'n' :: rest => some ('\n', rest)
  | '\\' :: 'r' :: rest => some ('\r', rest)
  | '\\' :: 't' :: rest => some ('\t', rest)
  | '\\' :: c :: rest => some (c, rest)
  | c :: rest => some (c, rest)
  | [] => none

theorem hexByte_eq : ∀ n < 0x20, hexByte n = [(n / 16).digitChar, (n % 16).digitChar] := by decide

theorem hexNat_digits : ∀ n < 0x20,
    Text.hexNat ['0', '0', (n / 16).digitChar, (n % 16).digitChar] = n := by decide

theorem unescape?_escapeChar (c : Char) (rest : List Char) :
    unescape? (escapeChar c ++ rest) = some (c, rest) := by
  rw [escapeChar]
  split_ifs with hquote hback hline hreturn htab hbell hfeed hcontrol
  · rw [hquote]; rfl
  · rw [hback]; rfl
  · rw [hline]; rfl
  · rw [hreturn]; rfl
  · rw [htab]; rfl
  · have hc : Char.ofNat 8 = c := by rw [← hbell, Char.ofNat_toNat]
    rw [← hc]
    rfl
  · have hc : Char.ofNat 12 = c := by rw [← hfeed, Char.ofNat_toNat]
    rw [← hc]
    rfl
  · rw [hexByte_eq _ hcontrol]
    simp only [List.cons_append, List.nil_append, unescape?, hexNat_digits _ hcontrol,
      Char.ofNat_toNat]
  · simp [unescape?, hback]

theorem escapeChar_append_inj {c d : Char} {r s : List Char}
    (h : escapeChar c ++ r = escapeChar d ++ s) : c = d ∧ r = s := by
  have hread := unescape?_escapeChar c r
  rw [h, unescape?_escapeChar, Option.some.injEq, Prod.mk.injEq] at hread
  exact ⟨hread.1.symm, hread.2.symm⟩

theorem head?_escapeChar (c : Char) (rest : List Char) :
    (escapeChar c ++ rest).head? ≠ some '"' := by
  intro h
  obtain ⟨cs, hcs⟩ := List.head?_eq_some_iff.mp h
  have hread := unescape?_escapeChar c rest
  have hquote : unescape? ('"' :: cs) = some ('"', cs) := rfl
  rw [hcs, hquote, Option.some.injEq, Prod.mk.injEq] at hread
  obtain ⟨rfl, -⟩ := hread
  cases hcs

theorem body_append_inj {cs ds r s : List Char}
    (h : cs.flatMap escapeChar ++ '"' :: r = ds.flatMap escapeChar ++ '"' :: s) :
    cs = ds ∧ r = s := by
  induction cs generalizing ds with
  | nil =>
      cases ds with
      | nil => exact ⟨rfl, List.tail_eq_of_cons_eq h⟩
      | cons d ds =>
          rw [List.flatMap_cons, List.append_assoc] at h
          exact absurd (congrArg List.head? h).symm (head?_escapeChar d _)
  | cons c cs ih =>
      rw [List.flatMap_cons, List.append_assoc] at h
      cases ds with
      | nil => exact absurd (congrArg List.head? h) (head?_escapeChar c _)
      | cons d ds =>
          rw [List.flatMap_cons, List.append_assoc] at h
          obtain ⟨rfl, hrest⟩ := escapeChar_append_inj h
          obtain ⟨rfl, hrs⟩ := ih hrest
          exact ⟨rfl, hrs⟩

theorem toList_quote_append (s : String) (rest : List Char) :
    (quote s).toList ++ rest = '"' :: (s.toList.flatMap escapeChar ++ '"' :: rest) := by
  simp [quote]

theorem quote_append_inj {s t : String} {rest rest' : List Char}
    (h : (quote s).toList ++ rest = (quote t).toList ++ rest') : s = t ∧ rest = rest' := by
  rw [toList_quote_append, toList_quote_append] at h
  obtain ⟨htext, hrest⟩ := body_append_inj (List.tail_eq_of_cons_eq h)
  exact ⟨String.toList_inj.mp htext, hrest⟩

def isIntChar (c : Char) : Bool := c == '-' || Decimal.isDigit c

theorem isIntChar_of_mem {c : Char} {i : Int} (h : c ∈ (toString i).toList) :
    isIntChar c = true := by
  have hdigit {n : Nat} (hc : c ∈ Nat.toDigits 10 n) : isIntChar c = true := by
    rw [isIntChar, Piece.isDigit_of_mem_toDigits hc, Bool.or_true]
  obtain ⟨n, ⟨htext, _⟩ | ⟨htext, _⟩⟩ := Piece.toString_cases i
  · exact hdigit (htext ▸ h)
  · rw [htext] at h
    rcases List.mem_cons.mp h with rfl | h
    · rfl
    · exact hdigit h

theorem not_isIntChar_of_closes {rest : List Char} (h : Closes rest) :
    ∀ c ∈ rest.head?, isIntChar c = false := by
  intro c hc
  rcases h c hc with rfl | rfl | rfl
  · decide
  · decide
  · decide

theorem toDigits_inj {m n : Nat} (h : Nat.toDigits 10 m = Nat.toDigits 10 n) : m = n := by
  rw [← Piece.natOf_toDigits m, h, Piece.natOf_toDigits]

theorem toDigits_ne_minus {m : Nat} {cs : List Char} : Nat.toDigits 10 m ≠ '-' :: cs := by
  intro h
  have hdigit : Decimal.isDigit '-' = true :=
    Piece.isDigit_of_mem_toDigits (n := m) (h ▸ List.mem_cons_self)
  exact absurd hdigit (by decide)

theorem toString_inj {i j : Int} (h : toString i = toString j) : i = j := by
  obtain ⟨m, hi⟩ := Piece.toString_cases i
  obtain ⟨n, hj⟩ := Piece.toString_cases j
  rw [h] at hi
  rcases hi with ⟨hi, rfl⟩ | ⟨hi, rfl⟩ <;> rcases hj with ⟨hj, rfl⟩ | ⟨hj, rfl⟩
  · rw [toDigits_inj (hi.symm.trans hj)]
  · exact absurd (hi.symm.trans hj) toDigits_ne_minus
  · exact absurd (hj.symm.trans hi) toDigits_ne_minus
  · rw [toDigits_inj (List.tail_eq_of_cons_eq (hi.symm.trans hj))]

theorem int_append_inj {i j : Int} {r s : List Char} (hr : Closes r) (hs : Closes s)
    (h : (toString i).toList ++ r = (toString j).toList ++ s) : i = j ∧ r = s := by
  obtain ⟨htake, hdrop⟩ :=
    Piece.span_append (fun _ => isIntChar_of_mem (i := i)) (not_isIntChar_of_closes hr)
  obtain ⟨htake', hdrop'⟩ :=
    Piece.span_append (fun _ => isIntChar_of_mem (i := j)) (not_isIntChar_of_closes hs)
  rw [h] at htake hdrop
  exact ⟨toString_inj (String.toList_inj.mp (htake.symm.trans htake')), hdrop.symm.trans hdrop'⟩

def separated {α : Type} (write : α → List Char) : List α → List Char
  | [] => []
  | a :: as => write a ++ as.flatMap fun b => ',' :: write b

section separated

variable {α : Type} {write : α → List Char} {close : Char} {as bs : List α} {r s : List Char}

theorem closes_rest (hclose : close = ']' ∨ close = '\x7d') (as : List α) (r : List Char) :
    Closes ((as.flatMap fun a => ',' :: write a) ++ close :: r) := by
  cases as with
  | nil => exact closes_cons (Or.inr hclose) r
  | cons a as => exact closes_cons (Or.inl rfl) _

theorem rest_append_inj (hclose : close = ']' ∨ close = '\x7d')
    (htells : ∀ a ∈ as, ∀ b ∈ bs, TellsApart write a b)
    (h : (as.flatMap fun a => ',' :: write a) ++ close :: r =
      (bs.flatMap fun b => ',' :: write b) ++ close :: s) : as = bs ∧ r = s := by
  have hcomma : close ≠ ',' := by rcases hclose with rfl | rfl <;> decide
  induction as generalizing bs with
  | nil =>
      cases bs with
      | nil => exact ⟨rfl, List.tail_eq_of_cons_eq h⟩
      | cons b bs => exact absurd (List.head_eq_of_cons_eq h) hcomma
  | cons a as ih =>
      cases bs with
      | nil => exact absurd (List.head_eq_of_cons_eq h).symm hcomma
      | cons b bs =>
          obtain ⟨hfirst, hothers⟩ := List.forall_mem_cons.mp htells
          simp only [List.flatMap_cons, List.cons_append, List.append_assoc] at h
          obtain ⟨rfl, hrest⟩ := hfirst b List.mem_cons_self (closes_rest hclose as r)
            (closes_rest hclose bs s) (List.tail_eq_of_cons_eq h)
          have hlater : ∀ a ∈ as, ∀ b ∈ bs, TellsApart write a b :=
            fun a ha b hb => hothers a ha b (List.mem_cons_of_mem _ hb)
          obtain ⟨rfl, hrs⟩ := ih hlater hrest
          exact ⟨rfl, hrs⟩

theorem separated_append_inj (hclose : close = ']' ∨ close = '\x7d')
    (hlead : ∀ a, a ∈ as ∨ a ∈ bs → ∀ rest, (write a ++ rest).head? ≠ some close)
    (htells : ∀ a ∈ as, ∀ b ∈ bs, TellsApart write a b)
    (h : separated write as ++ close :: r = separated write bs ++ close :: s) :
    as = bs ∧ r = s := by
  cases as with
  | nil =>
      cases bs with
      | nil => exact ⟨rfl, List.tail_eq_of_cons_eq h⟩
      | cons b bs =>
          rw [separated, separated, List.append_assoc] at h
          exact absurd (congrArg List.head? h).symm (hlead b (Or.inr List.mem_cons_self) _)
  | cons a as =>
      cases bs with
      | nil =>
          rw [separated, separated, List.append_assoc] at h
          exact absurd (congrArg List.head? h) (hlead a (Or.inl List.mem_cons_self) _)
      | cons b bs =>
          -- With one more comma in front, the first items are among those that follow a comma.
          exact rest_append_inj hclose htells (congrArg (List.cons ',') h)

end separated

def written (j : Json) : List Char := j.compact.toList

def writtenMember (m : String × Json) : List Char := (quote m.1).toList ++ ':' :: m.2.written

theorem toList_compactItems (js : List Json) :
    (compactItems js).toList = separated written js := by
  induction js with
  | nil => rfl
  | cons j js ih =>
      cases js with
      | nil => simp [compactItems, separated, written]
      | cons k ks => simp [compactItems, ih, separated, written]

theorem toList_compactMembers (ms : List (String × Json)) :
    (compactMembers ms).toList = separated writtenMember ms := by
  induction ms with
  | nil => rfl
  | cons m ms ih =>
      cases ms with
      | nil => simp [compactMembers, separated, writtenMember, written]
      | cons n ns => simp [compactMembers, ih, separated, writtenMember, written]

theorem written_arr_append (items : List Json) (rest : List Char) :
    (arr items).written ++ rest = '[' :: (separated written items ++ ']' :: rest) := by
  simp [written, compact, toList_compactItems]

theorem written_obj_append (members : List (String × Json)) (rest : List Char) :
    (obj members).written ++ rest =
      '\x7b' :: (separated writtenMember members ++ '\x7d' :: rest) := by
  simp [written, compact, toList_compactMembers]

inductive Kind where
  | null | truth | number | text | array | object

def kind : Json → Kind
  | .null => .null
  | .bool _ => .truth
  | .int _ => .number
  | .float _ => .number
  | .str _ => .text
  | .arr _ => .array
  | .obj _ => .object

def Kind.begunBy (c : Char) : Kind :=
  if c = 'n' then .null
  else if c = 't' ∨ c = 'f' then .truth
  else if c = '"' then .text
  else if c = '[' then .array
  else if c = '\x7b' then .object
  else .number

inductive Floatless : Json → Prop
  | null : Floatless .null
  | bool (b : Bool) : Floatless (.bool b)
  | int (i : Int) : Floatless (.int i)
  | str (s : String) : Floatless (.str s)
  | arr {items : List Json} (h : ∀ j ∈ items, Floatless j) : Floatless (.arr items)
  | obj {members : List (String × Json)} (h : ∀ m ∈ members, Floatless m.2) :
      Floatless (.obj members)

theorem begunBy_of_isIntChar {c : Char} (h : isIntChar c = true) :
    Kind.begunBy c = .number ∧ c ≠ ']' := by
  have hother : ∀ d ∈ ['n', 't', 'f', '"', '[', '\x7b', ']'], c ≠ d := by
    rintro d hd rfl
    have hnone : ['n', 't', 'f', '"', '[', '\x7b', ']'].all (fun d => !isIntChar d) = true := by
      decide
    have hd' := List.all_eq_true.mp hnone c hd
    rw [h] at hd'
    cases hd'
  simp only [List.forall_mem_cons] at hother
  obtain ⟨hn, ht, hf, hquote, hopen, hbrace, hclose, -⟩ := hother
  exact ⟨by simp [Kind.begunBy, hn, ht, hf, hquote, hopen, hbrace], hclose⟩

theorem Floatless.head?_written {j : Json} (h : j.Floatless) (rest : List Char) :
    ∃ c, (j.written ++ rest).head? = some c ∧ Kind.begunBy c = j.kind ∧ c ≠ ']' := by
  cases h with
  | null => exact ⟨'n', rfl, rfl, by decide⟩
  | bool b =>
      cases b with
      | true => exact ⟨'t', rfl, rfl, by decide⟩
      | false => exact ⟨'f', rfl, rfl, by decide⟩
  | int i =>
      obtain ⟨c, cs, htext⟩ : ∃ c cs, (toString i).toList = c :: cs := by
        obtain ⟨n, ⟨hi, _⟩ | ⟨hi, _⟩⟩ := Piece.toString_cases i
        · rw [hi]
          exact List.exists_cons_of_ne_nil Nat.toDigits_ne_nil
        · exact ⟨_, _, hi⟩
      have hc : isIntChar c = true := isIntChar_of_mem (htext ▸ List.mem_cons_self)
      refine ⟨c, ?_, begunBy_of_isIntChar hc⟩
      rw [written, compact, htext]
      rfl
  | str s =>
      refine ⟨'"', ?_, rfl, by decide⟩
      rw [written, compact, toList_quote_append]
      rfl
  | arr _ =>
      refine ⟨'[', ?_, rfl, by decide⟩
      rw [written_arr_append]
      rfl
  | obj _ =>
      refine ⟨'\x7b', ?_, rfl, by decide⟩
      rw [written_obj_append]
      rfl

theorem Floatless.not_closing {j : Json} (h : j.Floatless) (rest : List Char) :
    (j.written ++ rest).head? ≠ some ']' := by
  obtain ⟨c, hc, _, hclose⟩ := h.head?_written rest
  rw [hc, Ne, Option.some.injEq]
  exact hclose

theorem writtenMember_append (m : String × Json) (rest : List Char) :
    writtenMember m ++ rest = (quote m.1).toList ++ (':' :: (m.2.written ++ rest)) := by
  simp [writtenMember]

theorem tellsApart_writtenMember {m n : String × Json} (h : TellsApart written m.2 n.2) :
    TellsApart writtenMember m n := by
  intro r s hr hs hmn
  rw [writtenMember_append, writtenMember_append] at hmn
  obtain ⟨hkey, hrest⟩ := quote_append_inj hmn
  obtain ⟨hvalue, hrs⟩ := h hr hs (List.tail_eq_of_cons_eq hrest)
  exact ⟨Prod.ext hkey hvalue, hrs⟩

theorem boolText_append_inj {b b' : Bool} {r s : List Char}
    (h : (Value.boolText b).toList ++ r = (Value.boolText b').toList ++ s) : b = b' ∧ r = s := by
  cases b with
  | true =>
      cases b' with
      | true => exact ⟨rfl, List.append_cancel_left h⟩
      | false => cases List.head_eq_of_cons_eq h
  | false =>
      cases b' with
      | true => cases List.head_eq_of_cons_eq h
      | false => exact ⟨rfl, List.append_cancel_left h⟩

theorem kind_eq_of_written {j k : Json} (hj : j.Floatless) (hk : k.Floatless) {r s : List Char}
    (h : j.written ++ r = k.written ++ s) : j.kind = k.kind := by
  obtain ⟨c, hc, hkind, _⟩ := hj.head?_written r
  obtain ⟨d, hd, hkind', _⟩ := hk.head?_written s
  rw [h, hd, Option.some.injEq] at hc
  rw [← hkind, ← hkind', hc]

theorem Floatless.tellsApart {j k : Json} (hj : j.Floatless) (hk : k.Floatless) :
    TellsApart written j k := by
  intro r s hr hs h
  -- The first character leaves only trees of one kind to compare.
  have hkind := kind_eq_of_written hj hk h
  induction hj generalizing k r s with
  | null =>
      cases hk with
      | null => exact ⟨rfl, List.append_cancel_left h⟩
      | _ => cases hkind
  | bool b =>
      cases hk with
      | bool b' =>
          obtain ⟨rfl, hrs⟩ := boolText_append_inj h
          exact ⟨rfl, hrs⟩
      | _ => cases hkind
  | int i =>
      cases hk with
      | int i' =>
          obtain ⟨rfl, hrs⟩ := int_append_inj hr hs h
          exact ⟨rfl, hrs⟩
      | _ => cases hkind
  | str t =>
      cases hk with
      | str t' =>
          obtain ⟨rfl, hrs⟩ := quote_append_inj h
          exact ⟨rfl, hrs⟩
      | _ => cases hkind
  | @arr items hitems ih =>
      cases hk with
      | @arr items' hitems' =>
          have hlead : ∀ a, a ∈ items ∨ a ∈ items' → ∀ rest,
              (a.written ++ rest).head? ≠ some ']' := by
            rintro a (ha | ha)
            · exact (hitems a ha).not_closing
            · exact (hitems' a ha).not_closing
          have htells : ∀ a ∈ items, ∀ b ∈ items', TellsApart written a b :=
            fun a ha b hb _ _ hr hs h =>
              ih a ha (hitems' b hb) hr hs h (kind_eq_of_written (hitems a ha) (hitems' b hb) h)
          rw [written_arr_append, written_arr_append] at h
          obtain ⟨rfl, hrs⟩ :=
            separated_append_inj (Or.inl rfl) hlead htells (List.tail_eq_of_cons_eq h)
          exact ⟨rfl, hrs⟩
      | _ => cases hkind
  | @obj members hmembers ih =>
      cases hk with
      | @obj members' hmembers' =>
          have hlead : ∀ m, m ∈ members ∨ m ∈ members' → ∀ rest,
              (writtenMember m ++ rest).head? ≠ some '\x7d' := by
            intro m _ rest
            rw [writtenMember_append, toList_quote_append, List.head?_cons]
            decide
          have htells : ∀ m ∈ members, ∀ n ∈ members', TellsApart writtenMember m n :=
            fun m hm n hn => tellsApart_writtenMember fun _ _ hr hs h =>
              ih m hm (hmembers' n hn) hr hs h
                (kind_eq_of_written (hmembers m hm) (hmembers' n hn) h)
          rw [written_obj_append, written_obj_append] at h
          obtain ⟨rfl, hrs⟩ :=
            separated_append_inj (Or.inr rfl) hlead htells (List.tail_eq_of_cons_eq h)
          exact ⟨rfl, hrs⟩
      | _ => cases hkind

theorem compact_inj {j k : Json} (hj : j.Floatless) (hk : k.Floatless) :
    j.compact = k.compact ↔ j = k := by
  constructor
  · intro h
    exact (hj.tellsApart hk closes_nil closes_nil (by rw [written, written, h])).1
  · exact congrArg compact

end Json

namespace Value

inductive Floatless : Value → Prop
  | nil : Floatless .nil
  | bool (b : Bool) : Floatless (.bool b)
  | int (i : Int64) : Floatless (.int i)
  | str (s : String) : Floatless (.str s)
  | list {items : List Value} (h : ∀ v ∈ items, Floatless v) : Floatless (.list items)
  | failed (message : String) : Floatless (.failed message)

mutual

def unmarked : Value → Value
  | .failed message => .str ("ERROR: " ++ message)
  | .list items => .list (unmarkedAll items)
  | v => v

def unmarkedAll : List Value → List Value
  | [] => []
  | v :: vs => unmarked v :: unmarkedAll vs

end

mutual

theorem toJson_unmarked : ∀ v : Value, v.unmarked.toJson = v.toJson
  | .nil => rfl
  | .bool _ => rfl
  | .int _ => rfl
  | .float _ => rfl
  | .str _ => rfl
  | .list items => congrArg Json.arr (toJsonAll_unmarkedAll items)
  | .failed _ => rfl

theorem toJsonAll_unmarkedAll : ∀ vs : List Value, toJsonAll (unmarkedAll vs) = toJsonAll vs
  | [] => rfl
  | v :: vs => congrArg₂ List.cons (toJson_unmarked v) (toJsonAll_unmarkedAll vs)

end

mutual

def ofJson : Json → Value
  | .null => .nil
  | .bool b => .bool b
  | .int i => .int (Int64.ofInt i)
  | .float x => .float x
  | .str s => .str s
  | .arr items => .list (ofJsonAll items)
  | .obj _ => .nil

def ofJsonAll : List Json → List Value
  | [] => []
  | j :: js => ofJson j :: ofJsonAll js

end

mutual

theorem ofJson_toJson : ∀ v : Value, ofJson v.toJson = v.unmarked
  | .nil => rfl
  | .bool _ => rfl
  | .int i => congrArg Value.int (Int64.ofInt_toInt i)
  | .float _ => rfl
  | .str _ => rfl
  | .list items => congrArg Value.list (ofJsonAll_toJsonAll items)
  | .failed _ => rfl

theorem ofJsonAll_toJsonAll : ∀ vs : List Value, ofJsonAll (toJsonAll vs) = unmarkedAll vs
  | [] => rfl
  | v :: vs => congrArg₂ List.cons (ofJson_toJson v) (ofJsonAll_toJsonAll vs)

end

theorem toJson_eq_iff (v w : Value) : v.toJson = w.toJson ↔ v.unmarked = w.unmarked := by
  constructor
  · intro h
    rw [← ofJson_toJson, h, ofJson_toJson]
  · intro h
    rw [← toJson_unmarked, h, toJson_unmarked]

theorem toJsonAll_eq_map (vs : List Value) : toJsonAll vs = vs.map toJson := by
  induction vs with
  | nil => rfl
  | cons v vs ih => rw [toJsonAll, ih, List.map_cons]

theorem Floatless.toJson {v : Value} (h : v.Floatless) : v.toJson.Floatless := by
  induction h with
  | nil => exact .null
  | bool b => exact .bool b
  | int i => exact .int i.toInt
  | str s => exact .str s
  | @list items hitems ih =>
      refine .arr fun j hj => ?_
      rw [toJsonAll_eq_map] at hj
      obtain ⟨v, hv, rfl⟩ := List.mem_map.mp hj
      exact ih v hv
  | failed message => exact .str _

theorem json_text_determines_value {v w : Value} (hv : v.Floatless) (hw : w.Floatless) :
    v.toJson.compact = w.toJson.compact ↔ v.unmarked = w.unmarked := by
  rw [Json.compact_inj hv.toJson hw.toJson, toJson_eq_iff]

def mishap : Value := .list [.failed "\"]", .list [.int (-3), .nil, .bool true], .list []]

def report : Value := .list [.str "ERROR: \"]", .list [.int (-3), .nil, .bool true], .list []]

def misreport : Value := .list [.str "ERROR: ", .list [.int (-3), .nil, .bool true], .list []]

theorem text_of_mishap_determines_report :
    mishap.Floatless ∧ report.Floatless ∧ misreport.Floatless ∧
      mishap.toJson.compact = report.toJson.compact ∧
      mishap.toJson.compact ≠ misreport.toJson.compact := by
  have hinner : Floatless (.list [.int (-3), .nil, .bool true]) := by
    refine .list ?_
    simp only [List.forall_mem_cons, List.not_mem_nil, false_implies, implies_true, and_true]
    exact ⟨.int _, .nil, .bool _⟩
  have hlist {v : Value} (hv : v.Floatless) :
      Floatless (.list [v, .list [.int (-3), .nil, .bool true], .list []]) := by
    refine .list ?_
    simp only [List.forall_mem_cons, List.not_mem_nil, false_implies, implies_true, and_true]
    exact ⟨hv, hinner, .list nofun⟩
  have hmishap : mishap.Floatless := hlist (.failed _)
  have hreport : report.Floatless := hlist (.str _)
  have hmisreport : misreport.Floatless := hlist (.str _)
  have hdiffer : mishap.unmarked ≠ misreport.unmarked := by
    simp [mishap, misreport, unmarked, unmarkedAll]
  exact ⟨hmishap, hreport, hmisreport, (json_text_determines_value hmishap hreport).mpr rfl,
    mt (json_text_determines_value hmishap hmisreport).mp hdiffer⟩

end Value

end GestureGraph
