import GestureGraph.Program
import GestureGraph.Proofs.Cursor
import Mathlib.Data.List.TakeWhile

namespace GestureGraph

namespace Piece

@[simp] theorem joined_nil : joined [] = [] := rfl

@[simp] theorem joined_cons (p : Piece) (ps : List Piece) :
    joined (p :: ps) = p.text ++ joined ps := List.flatMap_cons

@[simp] theorem joined_append (ps qs : List Piece) : joined (ps ++ qs) = joined ps ++ joined qs :=
  List.flatMap_append

theorem cutString?_cons {c : Char} (hquote : c ≠ '"') (hback : c ≠ '\\') (cs : List Char) :
    cutString? (c :: cs) = (cutString? cs).map fun (body, rest) => (c :: body, rest) := by
  rw [cutString?]
  · exact hquote
  · exact fun _ _ h => absurd h hback

theorem cutString?_append {cs body rest : List Char} (h : cutString? cs = some (body, rest))
    (rest' : List Char) : cutString? (body ++ rest') = some (body, rest') := by
  fun_induction cutString? cs generalizing body with
  | case1 => cases h
  | case2 cs =>
      cases h
      rfl
  | case3 c cs ih =>
      obtain ⟨⟨inner, after⟩, hinner, heq⟩ := Option.map_eq_some_iff.mp h
      cases heq
      simp only [List.cons_append, cutString?, ih hinner, Option.map_some]
  | case4 c cs hquote hback ih =>
      obtain ⟨⟨inner, after⟩, hinner, heq⟩ := Option.map_eq_some_iff.mp h
      cases heq
      have hplain : c ≠ '\\' := by
        rintro rfl
        cases cs with
        | nil => cases hinner
        | cons d ds => exact hback d ds rfl rfl
      rw [List.cons_append, cutString?_cons hquote hplain, ih hinner, Option.map_some]

theorem span_append {p : Char → Bool} {xs rest : List Char} (hxs : ∀ c ∈ xs, p c = true)
    (hrest : ∀ c ∈ rest.head?, p c = false) :
    (xs ++ rest).takeWhile p = xs ∧ (xs ++ rest).dropWhile p = rest := by
  have hstop : rest.takeWhile p = [] ∧ rest.dropWhile p = rest := by
    cases rest with
    | nil => exact ⟨rfl, rfl⟩
    | cons c cs => simp [hrest c rfl]
  rw [List.takeWhile_append_of_pos hxs, List.dropWhile_append_of_pos hxs, hstop.1, hstop.2,
    List.append_nil]
  exact ⟨rfl, rfl⟩

inductive Read : List Char → List Piece → List Char → Prop
  | done (cs : List Char) : Read cs [] cs
  | cut {c : Char} {cs mid rest : List Char} {p : Piece} {ps : List Piece}
      (h : Piece.cut c cs = .ok (p, mid)) (hrest : Read mid ps rest) : Read (c :: cs) (p :: ps) rest

variable {cs mid rest : List Char} {ps qs : List Piece}

theorem Read.append (h : Read cs ps mid) (h' : Read mid qs rest) : Read cs (ps ++ qs) rest := by
  induction h with
  | done cs => exact h'
  | cut h _ ih => exact .cut h (ih h')

theorem Read.joined (h : Read cs ps rest) : Piece.joined ps ++ rest = cs := by
  induction h with
  | done cs => rfl
  | cut h _ ih =>
      rw [joined_cons, List.append_assoc, ih]
      exact (cut_append h).2

theorem Read.scan (h : Read cs ps rest) :
    Piece.scan cs = (ps ++ (Piece.scan rest).1, (Piece.scan rest).2) := by
  induction h with
  | done cs => rfl
  | cut h _ ih => exact scan_of_cut h ih

theorem Read.scan_all (h : Read cs ps []) : Piece.scan cs = (ps, none) := by
  rw [h.scan, scan_nil, List.append_nil]

theorem read_of_scan (h : Piece.scan cs = (ps, none)) : Read cs ps [] := by
  fun_induction Piece.scan cs generalizing ps with
  | case1 =>
      cases h
      exact .done []
  | case2 c cs fault hcut => cases h
  | case3 c cs piece rest hcut _ pieces fault? hscan ih =>
      cases h
      exact .cut hcut (ih hscan)

theorem tokensFrom_append (offset : Nat) (ps qs : List Piece) :
    tokensFrom offset (ps ++ qs) =
      tokensFrom offset ps ++ tokensFrom (offset + byteSize (Piece.joined ps)) qs := by
  induction ps generalizing offset with
  | nil => rfl
  | cons p ps ih =>
      rw [List.cons_append, tokensFrom_cons p (ps ++ qs), tokensFrom_cons p ps, ih, joined_cons,
        byteSize_append, List.append_assoc, Nat.add_assoc]

end Piece

theorem Token.scan_of_read {origin source : String} {ps : List Piece}
    (h : Piece.Read source.toList ps []) :
    Token.scan origin source = .ok (Piece.tokensFrom 0 ps) := by
  rw [Token.scan, h.scan_all]

theorem Token.read_of_scan {origin source : String} {tokens : List Token}
    (h : Token.scan origin source = .ok tokens) :
    ∃ ps, Piece.Read source.toList ps [] ∧ tokens = Piece.tokensFrom 0 ps := by
  rw [Token.scan] at h
  cases hscan : Piece.scan source.toList with
  | mk ps fault? =>
      rw [hscan] at h
      cases fault? with
      | none =>
          cases h
          exact ⟨ps, Piece.read_of_scan hscan, rfl⟩
      | some fault => cases h

namespace Program

theorem mapError_eq_ok_iff {ε ε' α : Type} {f : ε → ε'} {x : Except ε α} {a : α} :
    x.mapError f = .ok a ↔ x = .ok a := by
  cases x with
  | error e => exact ⟨nofun, nofun⟩
  | ok b =>
      rw [Except.ok.injEq]
      exact Iff.of_eq (Except.ok.injEq b a)

theorem bind_eq_ok_iff {ε α β : Type} {x : Except ε α} {f : α → Except ε β} {b : β} :
    x >>= f = .ok b ↔ ∃ a, x = .ok a ∧ f a = .ok b := by
  cases x with
  | error e => exact ⟨nofun, nofun⟩
  | ok a =>
      constructor
      · exact fun h => ⟨a, rfl, h⟩
      · rintro ⟨_, ⟨⟩, h⟩
        exact h

theorem read_eq_ok_iff {axioms : Axioms} {origin source : String} {program : Program} :
    read axioms origin source = .ok program ↔
      axioms.checkPhrases source = .ok () ∧ ∃ tokens, Token.scan origin source = .ok tokens ∧
        ∃ exprs, parse axioms.limits.parseDepth (echo source) tokens = .ok exprs ∧
          program = ⟨exprs, intentionsOf source⟩ := by
  have hreturn {exprs : List Value} :
      (pure ⟨exprs, intentionsOf source⟩ : Except ReadError Program) = .ok program ↔
        program = ⟨exprs, intentionsOf source⟩ := by
    rw [eq_comm]
    exact Iff.of_eq (Except.ok.injEq _ _)
  simp only [read, bind_eq_ok_iff, mapError_eq_ok_iff, hreturn]
  constructor
  · rintro ⟨⟨⟩, h⟩
    exact h
  · exact fun h => ⟨(), h⟩

end Program

end GestureGraph
