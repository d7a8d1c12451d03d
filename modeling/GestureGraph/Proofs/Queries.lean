import GestureGraph.Proofs.Representation
import GestureGraph.Proofs.Room
import Mathlib.Algebra.BigOperators.Group.Finset.Basic
import Mathlib.Algebra.GroupWithZero.Nat

namespace GestureGraph

namespace Table

open Std

variable {κ α : Type} [Ord κ] [TransOrd κ] [LawfulEqOrd κ] [DecidableEq κ]

theorem mem_keys_ofList {pairs : List (κ × α)} {key : κ} :
    key ∈ (ofList pairs).keys ↔ ∃ value, (key, value) ∈ pairs := by
  have hinserted (t : Table κ α) : (pairs.foldl (fun t pair => t.insert pair.1 pair.2) t).contains
      key = true ↔ t.contains key = true ∨ ∃ value, (key, value) ∈ pairs := by
    induction pairs generalizing t with
    | nil => simp
    | cons pair rest ih =>
        obtain ⟨k, value⟩ := pair
        rw [List.foldl_cons, ih, contains_insert_iff]
        simp only [List.mem_cons, Prod.mk.injEq, exists_or, exists_and_left, exists_eq,
          and_true]
        tauto
  have hempty : (empty : Table κ α).contains key = false := rfl
  rw [← contains_iff_mem_keys, ofList, hinserted, hempty]
  simp

end Table

namespace Graph

variable {g : Graph} {m n : String}

def Joins (g : Graph) (m n : String) : Prop :=
  (⟨m, n⟩ : Ends) ∈ g.edges.keys ∨ (⟨n, m⟩ : Ends) ∈ g.edges.keys

theorem joins_comm : g.Joins m n ↔ g.Joins n m := or_comm

theorem forall_not_joins_iff :
    (∀ m, ¬ g.Joins m n) ↔ ∀ e ∈ g.edges.keys, e.source ≠ n ∧ e.target ≠ n := by
  constructor
  · rintro h ⟨source, target⟩ he
    refine ⟨?_, ?_⟩
    · rintro rfl
      exact h target (Or.inr he)
    · rintro rfl
      exact h source (Or.inl he)
  · rintro h m (he | he)
    · exact (h _ he).2 rfl
    · exact (h _ he).1 rfl

theorem otherEnd?_eq_some_iff {e : Ends} :
    otherEnd? n e = some m ↔ e.source = n ∧ e.target = m ∨ e.target = n ∧ e.source = m := by
  simp only [otherEnd?]
  by_cases hs : e.source = n
  · by_cases ht : e.target = n
    · simp [hs, ht]
    · simp [hs, ht]
  · by_cases ht : e.target = n
    · simp [hs, ht]
    · simp [hs, ht]

theorem mem_neighbors_iff : m ∈ g.neighbors n ↔ g.Joins m n := by
  rw [neighbors, Table.mem_keys_ofList]
  simp only [List.mem_map, Prod.mk.injEq, and_true, exists_eq_right, List.mem_filterMap,
    exists_const, otherEnd?_eq_some_iff]
  constructor
  · rintro ⟨⟨source, target⟩, he, ⟨rfl, rfl⟩ | ⟨rfl, rfl⟩⟩
    · exact Or.inr he
    · exact Or.inl he
  · rintro (he | he)
    · exact ⟨_, he, Or.inr ⟨rfl, rfl⟩⟩
    · exact ⟨_, he, Or.inl ⟨rfl, rfl⟩⟩

theorem pairwise_neighbors (g : Graph) (n : String) : (g.neighbors n).Pairwise (· < ·) :=
  List.pairwise_map.mpr ((Table.ascending _).imp fun h =>
    compareOfLessAndEq_eq_lt.mp h)

theorem neighbors_eq_nil_iff : g.neighbors n = [] ↔ ∀ m, ¬ g.Joins m n := by
  simp only [List.eq_nil_iff_forall_not_mem, mem_neighbors_iff]

theorem degree_eq_zero_iff : g.degree n = 0 ↔ ∀ m, ¬ g.Joins m n := by
  rw [forall_not_joins_iff, degree, Nat.add_eq_zero_iff, List.countP_eq_zero, List.countP_eq_zero]
  simp only [beq_iff_eq, ← forall_and]

theorem isIsolated_iff : g.isIsolated n = true ↔ ∀ m, ¬ g.Joins m n := by
  simp [forall_not_joins_iff, isIsolated, Ends.touches]

def isolated (g : Graph) : List String :=
  let ends := Std.HashSet.ofList g.endNames
  g.nodes.keys.filter fun name => !ends.contains name

theorem length_isolated (g : Graph) : g.isolated.length = g.isolatedCount :=
  List.countP_eq_length_filter.symm

theorem mem_isolated_iff : n ∈ g.isolated ↔ g.contains n = true ∧ ∀ m, ¬ g.Joins m n := by
  rw [← isIsolated_iff, isIsolated_eq, contains, Table.contains_iff_mem_keys]
  simp [isolated, Std.HashSet.contains_ofList]

theorem sum_countP_of_cover {α β : Type} [DecidableEq β] {f : α → β} {items : List α}
    {keys : List β} (hkeys : keys.Nodup) (h : ∀ a ∈ items, f a ∈ keys) :
    (keys.map fun key => items.countP (f · == key)).sum = items.length := by
  have hcount (key : β) : items.countP (f · == key) = (items.map f).count key := by
    rw [List.count, List.countP_map]
    rfl
  have hmem : ∀ b ∈ (items.map f : Multiset β), b ∈ keys.toFinset := by simpa using h
  simp only [hcount]
  rw [← List.sum_toFinset (fun key => (items.map f).count key) hkeys]
  simpa using Multiset.sum_count_eq_card hmem

theorem sum_degree (h : ∀ e ∈ g.edges.keys, e.source ∈ g.nodes.keys ∧ e.target ∈ g.nodes.keys) :
    (g.nodes.keys.map g.degree).sum = 2 * g.edges.size := by
  have hnodup := Table.nodup_keys g.nodes
  have hsources := sum_countP_of_cover hnodup fun e he => (h e he).1
  have htargets := sum_countP_of_cover hnodup fun e he => (h e he).2
  have hsize : g.edges.keys.length = g.edges.size := List.length_map _
  calc (g.nodes.keys.map g.degree).sum
      = (g.nodes.keys.map fun n => g.edges.keys.countP (·.source == n)).sum +
          (g.nodes.keys.map fun n => g.edges.keys.countP (·.target == n)).sum := List.sum_map_add
    _ = 2 * g.edges.size := by rw [hsources, htargets, hsize, Nat.two_mul]

end Graph

namespace Context

structure QueriesAgree (c : Context) : Prop where
  degrees : (c.graph.nodes.keys.map c.graph.degree).sum = 2 * c.edgeCount
  lone : ∀ n, c.contains n = true →
    (c.graph.degree n = 0 ↔ c.graph.neighbors n = []) ∧
      (c.graph.neighbors n = [] ↔ n ∈ c.graph.isolated)
  isolated : c.graph.isolatedCount = c.graph.isolated.length ∧
    c.graph.isolatedCount = c.graph.nodes.keys.countP (c.graph.degree · = 0)
  symmetric : ∀ m n, m ∈ c.graph.neighbors n ↔ n ∈ c.graph.neighbors m
  relations : ∀ m n, m ∈ c.graph.neighbors n ↔
    (c.relation? m n).isSome = true ∨ (c.relation? n m).isSome = true
  ascending : ∀ n, (c.graph.neighbors n).Pairwise (· < ·)
  entities : ∀ m n, m ∈ c.graph.neighbors n → c.contains m = true

variable {c : Context} {m n : String}

theorem joins_iff :
    c.graph.Joins m n ↔ (c.relation? m n).isSome = true ∨ (c.relation? n m).isSome = true := by
  rw [Graph.Joins, ← Table.contains_iff_mem_keys, ← Table.contains_iff_mem_keys]
  rfl

theorem WellFormed.contains_ends (hc : c.WellFormed) {e : Ends} (he : e ∈ c.graph.edges.keys) :
    c.contains e.source = true ∧ c.contains e.target = true := by
  rw [← Table.contains_iff_mem_keys] at he
  obtain ⟨r, hr⟩ := Option.isSome_iff_exists.mp he
  have hok := hc.relations e.source e.target r hr
  exact ⟨hok.source_mem, hok.target_mem⟩

theorem WellFormed.queriesAgree (hc : c.WellFormed) : c.QueriesAgree where
  degrees := Graph.sum_degree fun e he => by
    rw [← Table.contains_iff_mem_keys, ← Table.contains_iff_mem_keys]
    exact hc.contains_ends he
  lone n hn := by
    rw [Graph.degree_eq_zero_iff, Graph.neighbors_eq_nil_iff, Graph.mem_isolated_iff]
    exact ⟨Iff.rfl, (and_iff_right hn).symm⟩
  isolated := by
    refine ⟨c.graph.length_isolated.symm, ?_⟩
    rw [Graph.isolatedCount_eq]
    refine List.countP_congr fun n _ => ?_
    rw [Graph.isIsolated_iff, decide_eq_true_eq, Graph.degree_eq_zero_iff]
  symmetric m n := by
    rw [Graph.mem_neighbors_iff, Graph.mem_neighbors_iff, Graph.joins_comm]
  relations m n := by rw [Graph.mem_neighbors_iff, joins_iff]
  ascending := c.graph.pairwise_neighbors
  entities m n h := by
    rcases Graph.mem_neighbors_iff.mp h with he | he
    · exact (hc.contains_ends he).1
    · exact (hc.contains_ends he).2

end Context

namespace Machine

theorem graph_queries_agree {name : String} {axioms : Axioms} {now : Nat} {c : Context}
    (h : Context.create name axioms now = .ok c) {actions : List Action}
    (ha : ∀ a ∈ actions, a.Lawful Tame) :
    ∀ m ∈ stations actions { context := c }, m.context.QueriesAgree := by
  intro m hm
  have hcreated := (Context.wellFormed_bare name axioms now).reaches (Context.reaches_of_create h)
  exact (hcreated.reaches (reaches_stations ha hm)).queriesAgree

theorem queries_agree_after_rehearsal : ∃ c, Context.create "rehearsal" .builtIn 0 = .ok c ∧
    (∀ a ∈ rehearsal, a.Lawful Tame) ∧
    (perform rehearsal { context := c }).context.QueriesAgree := by
  obtain ⟨c, hc⟩ := Context.create_of_room "rehearsal" 0
    (show 6 ≤ Axioms.builtIn.limits.entities by decide)
  exact ⟨c, hc, lawful_rehearsal,
    graph_queries_agree hc lawful_rehearsal _ (perform_mem_stations _ _)⟩

end Machine

end GestureGraph
