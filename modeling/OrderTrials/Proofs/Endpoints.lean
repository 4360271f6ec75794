import Mathlib.Data.List.Induction
import OrderTrials.Proofs.Resolving
/-
# End points and registered levels

A dimension keeps its levels in one list and what is declared about them in two graphs, and its calls
write these one by one. They stay consistent (`Dimension.Consistent`): the levels are what was
registered, each once and where it came first; both graphs show the orders that were declared, and so
have the same nodes; the sides of these orders are levels of the dimension; and no two edges of a
graph have the same ends. A call that succeeds adds to all of them what it registers and declares
(`Dimension.Consistent.run`), and one that fails adds nothing, so this holds after any history.

Key definitions: `Dimension.Call.registers`, `Dimension.registrations`, `Dimension.Consistent`.
Key theorems: `Dimension.levels_run`, `Dimension.Consistent.call`, `Dimension.Consistent.after`,
`Dimension.consistent_after`.
-/

namespace OrderTrials

theorem nodup_eraseDups {α : Type} [DecidableEq α] (l : List α) : l.eraseDups.Nodup := by
  induction l using List.reverseRecOn with
  | nil => exact List.nodup_nil
  | append_singleton past a ih =>
    rw [eraseDups_snoc]
    split
    · exact ih
    · rename_i new
      refine List.nodup_append.mpr ⟨ih, List.nodup_singleton a, fun b hb c hc same => new ?_⟩
      obtain rfl := List.mem_singleton.mp hc
      exact List.contains_iff_mem.mpr (same ▸ hb)

namespace Dimension

variable {d d' start : Dimension} {registered : List String} {orders : List Order} {c : Call}

/-! ### What is registered -/

/-- The names that a call registers on a dimension, if it succeeds. -/
def Call.registers (c : Call) (d : Dimension) : List String :=
  match c with
  | .register level => [level]
  | .setDefault raw =>
    match d.level raw with
    | .ok l => [l.name]
    | .error _ => []
  | .declare _ _ _ => []

/-- The names that a list of calls registers, in the order of the calls. -/
def registrations (d : Dimension) : List Call → List String
  | [] => []
  | c :: cs => c.registers d ++ (d.call c).registrations cs

theorem levels_register (h : d.levels = registered.eraseDups) (level : String) :
    (d.register level).levels = (registered ++ [level]).eraseDups := by
  rw [eraseDups_snoc, ← h, register]
  split <;> rfl

/-- **The levels after a call** are those of before and what the call registers. -/
theorem levels_run (h : d.levels = registered.eraseDups) (hc : c.run d = .ok d') :
    d'.levels = (registered ++ c.registers d).eraseDups := by
  cases c with
  | register level =>
    obtain rfl := Except.ok.inj hc
    exact levels_register h level
  | setDefault raw =>
    obtain ⟨l, named, rfl⟩ := setDefault_ok hc
    have adds : (Call.setDefault raw).registers d = [l.name] := by
      rw [Call.registers, named]
    rw [adds]
    exact levels_register h l.name
  | declare r a b =>
    have adds : (Call.declare r a b).registers d = [] := rfl
    rw [(declare_ok hc).2.2.1, adds, List.append_nil]
    exact h

/-- A call that fails registers nothing. -/
theorem Call.registers_of_error {e : SpaceError} (hc : c.run d = .error e) :
    c.registers d = [] := by
  cases c with
  | register level => cases hc
  | declare r a b => rfl
  | setDefault raw =>
    rw [registers]
    cases named : d.level raw with
    | error e => rfl
    | ok l =>
      rw [Call.run, Dimension.setDefault, named] at hc
      cases hc

/-! ### Consistency -/

/-- The level list and the graphs of a dimension fit together, after some names were registered and
some orders declared. -/
structure Consistent (d : Dimension) (registered : List String) (orders : List Order) : Prop where
  levels : d.levels = registered.eraseDups
  shows : d.Shows orders
  sides : ∀ o ∈ orders, ∀ side, side = o.left ∨ side = o.right →
    side.option = d.name ∧ side.name ∈ d.levels
  simple : d.Simple

theorem Fresh.consistent (fresh : start.Fresh) : start.Consistent [] [] := by
  refine ⟨?_, fresh.shows, nofun, fun r => ?_⟩
  · cases fresh with
    | enumeration name => rfl
    | integer made =>
      unfold Dimension.integer at made
      split at made
      · cases made
      · obtain rfl := Except.ok.inj made
        rfl
  · rw [fresh.graph_eq r]
    exact Graph.simple_empty

/-- **A call that succeeds** keeps a dimension consistent, with what it registers and declares. -/
theorem Consistent.run (h : d.Consistent registered orders) (hc : c.run d = .ok d') :
    d'.Consistent (registered ++ c.registers d) (orders ++ c.declares d) := by
  have shown := shows_call h.shows c
  rw [call_of_ok hc] at shown
  refine ⟨levels_run h.levels hc, shown, fun o ho side hside => ?_, h.simple.run hc⟩
  have name : d'.name = d.name := (Call.run_frame hc).1
  rw [name]
  rcases List.mem_append.mp ho with earlier | now
  · obtain ⟨own, known⟩ := h.sides o earlier side hside
    exact ⟨own, (Call.extends_of_run hc).levels _ known⟩
  · -- only a declaration declares, and its sides were checked before
    rw [Call.declares, hc] at now
    cases c with
    | register level => cases now
    | setDefault raw => cases now
    | declare r a b =>
      obtain ⟨left, right, same, -⟩ := declare_ok hc
      obtain rfl := List.mem_singleton.mp now
      rw [same]
      rcases hside with rfl | rfl
      · exact left
      · exact right

/-- **Any call** does, also one that fails. -/
theorem Consistent.call (h : d.Consistent registered orders) (c : Call) :
    (d.call c).Consistent (registered ++ c.registers d) (orders ++ c.declares d) := by
  cases hc : c.run d with
  | ok d' => exact call_of_ok hc ▸ h.run hc
  | error e =>
    have declares : c.declares d = [] := by rw [Call.declares, hc]
    have unchanged : d.call c = d := by rw [Dimension.call, hc]
    rw [unchanged, Call.registers_of_error hc, declares, List.append_nil, List.append_nil]
    exact h

/-- **Any history** does. -/
theorem Consistent.after (h : d.Consistent registered orders) (cs : List Call) :
    (d.after cs).Consistent (registered ++ d.registrations cs)
      (orders ++ d.declarations cs) := by
  induction cs generalizing d registered orders with
  | nil =>
    rw [registrations, declarations, List.append_nil, List.append_nil]
    exact h
  | cons c cs ih =>
    rw [registrations, declarations, ← List.append_assoc, ← List.append_assoc]
    exact ih (h.call c)

theorem consistent_of_fresh (fresh : start.Fresh) (cs : List Call) :
    (start.after cs).Consistent (start.registrations cs) (start.declarations cs) :=
  fresh.consistent.after cs

/-! ### What follows -/

theorem Consistent.nodup_levels (h : d.Consistent registered orders) : d.levels.Nodup :=
  h.levels ▸ nodup_eraseDups registered

theorem Consistent.mem_nodes_iff (h : d.Consistent registered orders) (r : Relation) (n : String) :
    n ∈ (d.graph r).nodes ↔ Named orders n := by
  rw [Graph.mem_nodes, h.shows.isNode_graph]

theorem Consistent.mem_levels_of_named (h : d.Consistent registered orders) {n : String}
    (named : Named orders n) : n ∈ d.levels := by
  obtain ⟨o, ho, rfl | rfl⟩ := named
  · exact (h.sides o ho o.left (.inl rfl)).2
  · exact (h.sides o ho o.right (.inr rfl)).2

theorem Consistent.mem_orderedLevels_iff (h : d.Consistent registered orders) (n : String) :
    n ∈ d.orderedLevels ↔ Named orders n := by
  rw [orderedLevels, List.mem_filter, h.shows.isNode]
  exact ⟨And.right, fun named => ⟨h.mem_levels_of_named named, named⟩⟩

/-- **Levels and graphs stay consistent.** After any history, calls that failed included, the
registered levels are the names that were registered, each once and in the order in which they first
came; each of them names the level of the dimension with this name. A name is a node of one graph or
the other if and only if it is a side of an order that was declared with success, and the sides of
these orders are registered levels of the dimension. No two edges of a graph have the same ends. The
levels that are listed as ordered are the sides of these orders, each once and in the order of
registration. -/
theorem consistent_after (fresh : start.Fresh) (cs : List Call) :
    ((start.after cs).levels = (start.registrations cs).eraseDups ∧
      (start.after cs).levels.Nodup ∧
      ∀ n ∈ (start.after cs).levels, (start.after cs).level n = .ok ⟨start.name, n⟩) ∧
    (∀ r n, n ∈ ((start.after cs).graph r).nodes ↔ Named (start.declarations cs) n) ∧
    (∀ o ∈ start.declarations cs, ∀ side, side = o.left ∨ side = o.right →
      side.option = start.name ∧ side.name ∈ (start.after cs).levels) ∧
    (∀ r, (((start.after cs).graph r).edges.map fun e => (e.source, e.target)).Nodup) ∧
    ((start.after cs).orderedLevels.Nodup ∧
      (start.after cs).orderedLevels.Sublist (start.after cs).levels ∧
      ∀ n, n ∈ (start.after cs).orderedLevels ↔ Named (start.declarations cs) n) := by
  have consistent := consistent_of_fresh fresh cs
  have name : (start.after cs).name = start.name := (after_frame start cs).1
  have sublist : (start.after cs).orderedLevels.Sublist (start.after cs).levels :=
    List.filter_sublist
  refine ⟨⟨consistent.levels, consistent.nodup_levels, fun n hn => ?_⟩, consistent.mem_nodes_iff,
    name ▸ consistent.sides, consistent.simple, consistent.nodup_levels.sublist sublist, sublist,
    consistent.mem_orderedLevels_iff⟩
  rw [← name]
  exact Normal.level_name (l := ⟨_, n⟩) ⟨rfl, .inl hn⟩

/-- Registers levels, one of them twice and one as a default, and declares an order between two of
them, at first in vain. A default that is out of range comes in between. -/
def mixedCalls : List Call :=
  let declaration := .declare shapeOrder.relation shapeOrder.left shapeOrder.right
  [.register "i-1", declaration, .setDefault "+7", .register "i", .register "i-1", declaration,
    .setDefault "11", declaration]

theorem consistent_after_mixedCalls :
    (upToTen.after mixedCalls).levels = ["i-1", "7", "i"] ∧
      (∀ r n, n ∈ ((upToTen.after mixedCalls).graph r).nodes ↔ n = "i" ∨ n = "i-1") ∧
      (upToTen.after mixedCalls).orderedLevels = ["i-1", "i"] ∧
      ((upToTen.after mixedCalls).soundness.edges.map fun e => (e.source, e.target)).Nodup := by
  have fresh : upToTen.Fresh := .integer (show integer "k" 0 10 = .ok upToTen from rfl)
  have registered : upToTen.registrations mixedCalls = ["i-1", "7", "i", "i-1"] := by
    decide +kernel
  have declared : upToTen.declarations mixedCalls = [shapeOrder, shapeOrder] := by decide +kernel
  have ordered : (upToTen.after mixedCalls).orderedLevels = ["i-1", "i"] := by decide +kernel
  obtain ⟨⟨levels, -, -⟩, nodes, -, simple, -⟩ := consistent_after fresh mixedCalls
  rw [registered] at levels
  rw [declared] at nodes
  refine ⟨levels, fun r n => ?_, ordered, simple .moreSound⟩
  rw [nodes]
  simp [Named, shapeOrder, eq_comm]

end Dimension
end OrderTrials
