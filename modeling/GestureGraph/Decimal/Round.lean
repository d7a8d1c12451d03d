namespace GestureGraph.Decimal

inductive Tie where
  | up
  | toEven
  deriving Repr, DecidableEq

def Tie.chooses (tie : Tie) (lower : Nat) : Nat :=
  match tie with
  | .up => lower + 1
  | .toEven => if lower % 2 = 0 then lower else lower + 1

def roundDiv (tie : Tie) (num den : Nat) : Nat :=
  let lower := num / den
  let rest := num % den
  if 2 * rest < den then lower
  else if den < 2 * rest then lower + 1
  else tie.chooses lower

theorem Tie.chooses_bounds (tie : Tie) (lower : Nat) :
    lower ≤ tie.chooses lower ∧ tie.chooses lower ≤ lower + 1 := by
  cases tie with
  | up => simp [Tie.chooses]
  | toEven =>
      simp only [Tie.chooses]
      split <;> omega

theorem roundDiv_near (tie : Tie) {num den : Nat} (h : 0 < den) :
    2 * (den * roundDiv tie num den) ≤ 2 * num + den ∧
      2 * num ≤ 2 * (den * roundDiv tie num den) + den := by
  have hsplit : den * (num / den) + num % den = num := Nat.div_add_mod num den
  have hrest : num % den < den := Nat.mod_lt _ h
  have hnext : den * (num / den + 1) = den * (num / den) + den := by rw [Nat.mul_add]; simp
  simp only [roundDiv]
  split
  · omega
  · split
    · omega
    · have hb := tie.chooses_bounds (num / den)
      rcases Nat.eq_or_lt_of_le hb.1 with he | hl
      · rw [← he]; omega
      · rw [show tie.chooses (num / den) = num / den + 1 by omega]; omega

theorem roundDiv_half_even {num den : Nat} (h : 2 * (num % den) = den) :
    roundDiv .toEven num den % 2 = 0 := by
  simp only [roundDiv, Tie.chooses, h, Nat.lt_irrefl, if_false]
  split <;> omega

end GestureGraph.Decimal
