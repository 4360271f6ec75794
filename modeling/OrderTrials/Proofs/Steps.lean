import Mathlib.Logic.Relation
import OrderTrials.Space.Graph
/-
# Steps of an order graph

All that an order graph answers follows from its steps: which names an edge joins, and whether a
declared edge does. An insertion adds one step and takes none away, also where the edge was there
before (`Graph.step_insert`), and the search for a target finds exactly the chains of steps from a
node (`Graph.reaches_iff`), on graphs with cycles too.

Key definitions: `Graph.Step`.
Key theorems: `Graph.step_insert`, `Graph.reaches_iff`.
-/

namespace OrderTrials
namespace Graph

/-- An edge leads from one name to another; with `declaredOnly`, a declared one. -/
def Step (g : Graph) (declaredOnly : Bool) (a b : String) : Prop :=
  ∃ e ∈ g.edges, e.source = a ∧ e.target = b ∧ (e.declared || !declaredOnly) = true

variable {g : Graph} {a b : String}

theorem not_step_empty (o : Bool) (a b : String) : ¬ empty.Step o a b := by
  rintro ⟨e, he, -⟩
  simp [empty] at he

/-- A declared step is a step. -/
theorem Step.of_declared (h : g.Step true a b) : g.Step false a b := by
  obtain ⟨e, he, hs, ht, -⟩ := h
  exact ⟨e, he, hs, ht, by simp⟩

theorem mem_successors (g : Graph) (o : Bool) (a b : String) :
    b ∈ g.successors o a ↔ g.Step o a b := by
  simp only [successors, List.mem_map, List.mem_filter, Bool.and_eq_true, beq_iff_eq]
  constructor
  · rintro ⟨e, ⟨he, hs, hd⟩, ht⟩
    exact ⟨e, he, hs, ht, hd⟩
  · rintro ⟨e, he, hs, ht, hd⟩
    exact ⟨e, ⟨he, hs, hd⟩, ht⟩

/-! ### Nodes -/

/-- The nodes are the ends of the steps. -/
theorem isNode_iff (g : Graph) (n : String) :
    g.isNode n = true ↔ ∃ m, g.Step false n m ∨ g.Step false m n := by
  simp only [isNode, List.any_eq_true, Bool.or_eq_true, beq_iff_eq]
  constructor
  · rintro ⟨e, he, rfl | rfl⟩
    · exact ⟨e.target, .inl ⟨e, he, rfl, rfl, by simp⟩⟩
    · exact ⟨e.source, .inr ⟨e, he, rfl, rfl, by simp⟩⟩
  · rintro ⟨m, ⟨e, he, hs, -⟩ | ⟨e, he, -, ht, -⟩⟩
    · exact ⟨e, he, .inl hs⟩
    · exact ⟨e, he, .inr ht⟩

theorem mem_nodes (g : Graph) (n : String) : n ∈ g.nodes ↔ g.isNode n = true := by
  simp only [nodes, isNode, List.mem_eraseDups, List.mem_flatMap, List.any_eq_true,
    Bool.or_eq_true, beq_iff_eq, List.mem_cons, List.not_mem_nil, or_false]
  simp only [eq_comm (a := n)]

theorem Step.target_mem_nodes {o : Bool} (h : g.Step o a b) : b ∈ g.nodes := by
  obtain ⟨e, he, hs, ht, -⟩ := h
  exact (mem_nodes g b).mpr ((isNode_iff g b).mpr ⟨a, .inr ⟨e, he, hs, ht, by simp⟩⟩)

/-! ### Insertion -/

/-- **An insertion adds its step, and nothing else.** A declared insertion makes the step a
declared one; an induced one leaves a declared step declared. -/
theorem step_insert (g : Graph) (source target : String) (declared o : Bool) (a b : String) :
    (g.insert source target declared).Step o a b ↔
      g.Step o a b ∨ (a = source ∧ b = target ∧ (declared || !o) = true) := by
  have joins_iff (e : Edge) :
      joins source target e = true ↔ e.source = source ∧ e.target = target := by simp [joins]
  unfold insert
  by_cases h : g.edges.any (joins source target) = true
  · rw [if_pos h]
    obtain ⟨e₀, he₀, hj₀⟩ := List.any_eq_true.mp h
    obtain ⟨hs₀, ht₀⟩ := (joins_iff e₀).mp hj₀
    constructor
    · rintro ⟨e', he', rfl, rfl, hd⟩
      obtain ⟨e, he, rfl⟩ := List.mem_map.mp he'
      by_cases hj : joins source target e = true
      · obtain ⟨hs, ht⟩ := (joins_iff e).mp hj
        simp only [hj, if_true, Bool.or_eq_true] at hd ⊢
        rcases hd with (hd | hd) | hd
        · exact .inl ⟨e, he, rfl, rfl, by simp [hd]⟩
        · exact .inr ⟨hs, ht, by simp [hd]⟩
        · exact .inr ⟨hs, ht, by simp [hd]⟩
      · simp only [hj] at hd ⊢
        exact .inl ⟨e, he, rfl, rfl, hd⟩
    · rintro (⟨e, he, rfl, rfl, hd⟩ | ⟨rfl, rfl, hd⟩)
      · refine ⟨_, List.mem_map.mpr ⟨e, he, rfl⟩, ?_⟩
        by_cases hj : joins source target e = true
        · rw [if_pos hj]
          refine ⟨rfl, rfl, ?_⟩
          rcases Bool.or_eq_true_iff.mp hd with hd | hd <;> simp [hd]
        · rw [if_neg hj]
          exact ⟨rfl, rfl, hd⟩
      · refine ⟨_, List.mem_map.mpr ⟨e₀, he₀, rfl⟩, ?_⟩
        rw [if_pos hj₀]
        refine ⟨hs₀, ht₀, ?_⟩
        rcases Bool.or_eq_true_iff.mp hd with hd | hd <;> simp [hd]
  · rw [if_neg h]
    simp only [Step, List.mem_append, List.mem_singleton]
    constructor
    · rintro ⟨e, he | rfl, hs, ht, hd⟩
      · exact .inl ⟨e, he, hs, ht, hd⟩
      · exact .inr ⟨hs.symm, ht.symm, hd⟩
    · rintro (⟨e, he, hs, ht, hd⟩ | ⟨rfl, rfl, hd⟩)
      · exact ⟨e, .inl he, hs, ht, hd⟩
      · exact ⟨⟨a, b, declared⟩, .inr rfl, rfl, rfl, hd⟩

/-! ### Reachability -/

/-- What exploring finds from a node are the ends of chains of steps. Every step ends in a node,
so that the domain of the search keeps no chain back. -/
theorem reached_iff (g : Graph) (o : Bool) (a n : String) :
    Reached (g.successors o) g.nodes [a] n ↔
      g.isNode a = true ∧ Relation.ReflTransGen (g.Step o) a n := by
  constructor
  · intro h
    induction h with
    | start hd hp =>
      obtain rfl := List.mem_singleton.mp hp
      exact ⟨(mem_nodes g _).mp hd, .refl⟩
    | hop _ _ hn ih => exact ⟨ih.1, ih.2.tail ((mem_successors g o _ _).mp hn)⟩
  · rintro ⟨ha, h⟩
    induction h with
    | refl => exact .start ((mem_nodes g a).mpr ha) List.mem_cons_self
    | tail _ hs ih => exact ih.hop hs.target_mem_nodes ((mem_successors g o _ _).mpr hs)

/-- **A node reaches what a chain of steps, possibly of none, leads to.** -/
theorem reaches_iff (g : Graph) (o : Bool) (a b : String) :
    g.reaches o a b = true ↔ g.isNode a = true ∧ Relation.ReflTransGen (g.Step o) a b := by
  rw [reaches, List.contains_iff_mem, mem_explore_iff, reached_iff]

end Graph
end OrderTrials
