import GestureGraph.Machine

namespace GestureGraph

theorem Operands.mem_of_mem_positional {operands : List Value} {v : Value}
    (h : v ∈ (split operands).positional) : v ∈ operands := by
  fun_induction split operands with
  | case1 => simp at h
  | case2 w key hk => simp at h
  | case3 w hk => exact h
  | case4 w x rest key hk ops ih =>
      exact List.mem_cons_of_mem _ (List.mem_cons_of_mem _ (ih h))
  | case5 w x rest hk ops ih =>
      rcases List.mem_cons.mp h with h | h
      · exact h ▸ List.mem_cons_self
      · exact List.mem_cons_of_mem _ (ih h)

theorem Value.operand_induction {P : Value → Prop}
    (form : ∀ symbol operands, (∀ v ∈ (Operands.split operands).positional, P v) →
      P (.list (.str symbol :: operands)))
    (other : ∀ v, (∀ symbol operands, v ≠ .list (.str symbol :: operands)) → P v)
    (v : Value) : P v := by
  induction hn : sizeOf v using Nat.strongRecOn generalizing v with
  | ind n ih =>
      by_cases hv : ∃ symbol operands, v = .list (.str symbol :: operands)
      · obtain ⟨symbol, operands, rfl⟩ := hv
        apply form
        intro w hw
        have hlt := List.sizeOf_lt_of_mem (Operands.mem_of_mem_positional hw)
        refine ih (sizeOf w) ?_ w rfl
        simp only [Value.list.sizeOf_spec, List.cons.sizeOf_spec] at hn
        omega
      · apply other
        intro symbol operands h
        exact hv ⟨symbol, operands, h⟩

namespace Machine

variable {X : Extension} [Semantics X]

def reduce (intentions : List String) : Value → Step X Value
  | .list items => evaluate intentions (.list items)
  | v => pure v

theorem visit_eq_mapM (intentions : List String) (use : Value → Step X Value)
    (operands : List Value) :
    visit intentions use operands =
      (Operands.split operands).positional.mapM fun v => reduce intentions v >>= use := by
  fun_induction Operands.split operands with
  | case1 => simp [visit]
  | case2 v key hk =>
      have hv : v.isKeyword = true := by simp [Value.isKeyword, hk]
      cases v <;> simp [visit, hv]
  | case3 v hk =>
      have hv : v.isKeyword = false := by simp [Value.isKeyword, hk]
      cases v <;> simp [visit, hv, reduce]
  | case4 v w rest key hk ops ih =>
      have hv : v.isKeyword = true := by simp [Value.isKeyword, hk]
      cases v <;> simpa [visit, hv] using ih
  | case5 v w rest hk ops ih =>
      have hv : v.isKeyword = false := by simp [Value.isKeyword, hk]
      cases v <;> simp [visit, hv, ih, reduce, ops]

theorem evaluate_list {intentions : List String} {items : List Value}
    (h : ∀ symbol operands, Value.list items ≠ .list (.str symbol :: operands)) :
    (evaluate intentions (.list items) : Step X Value) =
      guarded intentions (throw (.malformed (Value.list items).display)) := by
  cases items with
  | nil => rfl
  | cons head rest =>
      cases head with
      | str symbol => exact absurd rfl (h symbol rest)
      | _ => rfl

theorem evaluate_atom {intentions : List String} {v : Value} (h : v.isAtom = true) :
    (evaluate intentions v : Step X Value) = guarded intentions (pure v) := by
  cases v with
  | list items => simp [Value.isAtom] at h
  | _ => rfl

end Machine

end GestureGraph
