import OrderTrials.Proofs.Weighing
/-
# Which orders retire

Feedback removes orders pair by pair and counts what each pair removed. What is left in the end is
what no pair of the whole list retires (`Generator.foldl_retire`), and the counts add up to what is
gone (`Generator.count_foldl_retire`). So the order of the reports and their repetition play no part
(`Generator.feedback_congr`). Neither generating nor feedback brings an order back, and over a run
the retired orders and those that are left are as many as at the start (`Generator.orders_run`).

Key definitions: `Generator.Call.retired`, `Generator.retired`.
Key theorems: `Generator.retires_iff`, `Generator.mem_orders_feedback_iff`,
`Generator.feedback_congr`, `Generator.orders_run`, `Generator.survives_feedback_iff`.
-/

namespace OrderTrials

namespace Generator

variable {τ σ : Type} {vs vs' : List Violation} {confirmed : Violation → Bool}

/-! ### One round of feedback -/

/-- **What a pair retires,** if its option is one of the space: every order of an option of
integers, and else the orders that the pair holds. -/
theorem retires_iff (space : Space) (v : Violation) (o : Order) :
    retires space v o = true ↔ ∃ d, space.dimension? v.option = some d ∧
      (d.isInteger = true ∧ o.option = v.option ∨
        d.isInteger = false ∧ ∃ held ∈ v.orders, held.toOrder = o) := by
  unfold retires
  cases space.dimension? v.option with
  | none => simp
  | some d => cases integer : d.isInteger <;> simp [integer]

theorem mem_effective_iff (v : Violation) :
    v ∈ effective confirmed vs ↔ v ∈ vs ∧ confirmed v = true ∧ v.isTransitive = false := by
  simp [effective]

/-- Retiring orders, pair by pair, counts as many as it removes. -/
theorem count_foldl_retire (space : Space) (vs : List Violation) (acc : Pool Order × Nat) :
    (vs.foldl (retire space) acc).2 + (vs.foldl (retire space) acc).1.size =
      acc.2 + acc.1.size := by
  induction vs generalizing acc with
  | nil => rfl
  | cons v vs ih =>
    have shrinks : (acc.1.removeWhere (retires space v)).size ≤ acc.1.size :=
      List.length_filter_le _ _
    rw [List.foldl_cons, ih, retire]
    dsimp only
    omega

/-- **Which orders stay:** those that no direct violation retires. -/
theorem mem_orders_feedback_iff (g : Generator τ) (confirmed : Violation → Bool)
    (vs : List Violation) (o : Order) :
    o ∈ (g.feedback confirmed vs).1.orders.items ↔ o ∈ g.orders.items ∧
      ¬ ∃ v ∈ vs, confirmed v = true ∧ v.isTransitive = false ∧ retires g.space v o = true := by
  rw [(g.feedback_pools confirmed vs).1, foldl_retire, Pool.items_reweight, Pool.items_removeWhere,
    List.mem_filter]
  simp only [Bool.not_eq_true', List.any_eq_false, mem_effective_iff, not_exists, not_and, and_imp]

/-- The count of feedback is the number of orders that are gone. -/
theorem count_feedback (g : Generator τ) (confirmed : Violation → Bool) (vs : List Violation) :
    (g.feedback confirmed vs).2 + (g.feedback confirmed vs).1.orders.size = g.orders.size := by
  have size : (g.feedback confirmed vs).1.orders.size =
      ((effective confirmed vs).foldl (retire g.space) (g.orders, 0)).1.size := by
    rw [(g.feedback_pools confirmed vs).1]
    exact List.length_map _
  have counted := count_foldl_retire g.space (effective confirmed vs) (g.orders, 0)
  rw [Nat.zero_add] at counted
  rw [size, ← counted]
  rfl

/-- **Feedback depends on which pairs are reported,** not on their order or their number. -/
theorem feedback_congr (g : Generator τ) (confirmed : Violation → Bool)
    (same : ∀ v, v ∈ vs' ↔ v ∈ vs) : g.feedback confirmed vs' = g.feedback confirmed vs := by
  have members (v : Violation) : v ∈ effective confirmed vs' ↔ v ∈ effective confirmed vs := by
    rw [mem_effective_iff, mem_effective_iff, same]
  have retired (o : Order) : ((effective confirmed vs').any fun v => retires g.space v o) =
      (effective confirmed vs).any fun v => retires g.space v o := by
    rw [Bool.eq_iff_iff, List.any_eq_true, List.any_eq_true]
    exact exists_congr fun v => and_congr_left fun _ => members v
  have shown (t : Target) : ((effective confirmed vs').map (·.target)).contains t =
      ((effective confirmed vs).map (·.target)).contains t := by
    rw [Bool.eq_iff_iff, List.contains_iff_mem, List.contains_iff_mem, List.mem_map, List.mem_map]
    exact exists_congr fun v => and_congr_left fun _ => members v
  obtain ⟨orders', targets'⟩ := g.feedback_pools confirmed vs'
  obtain ⟨orders, targets⟩ := g.feedback_pools confirmed vs
  simp only [foldl_retire, retired] at orders' orders
  simp only [shown] at targets'
  have pools : (g.feedback confirmed vs').1.orders = (g.feedback confirmed vs).1.orders ∧
      (g.feedback confirmed vs').1.targets = (g.feedback confirmed vs).1.targets :=
    ⟨orders'.trans orders.symm, targets'.trans targets.symm⟩
  have count' := g.count_feedback confirmed vs'
  have count := g.count_feedback confirmed vs
  rw [pools.1] at count'
  refine Prod.ext ?_ (by omega)
  -- the other fields of the state do not depend on the reports
  exact congrArg₂ (fun orders targets => { g with orders, targets, selected := [] }) pools.1 pools.2

/-! ### Runs -/

variable [Randomness σ] [SeedSource τ σ]

/-- How many orders retire in a call. -/
def Call.retired (c : Call σ) (g : Generator τ) : Nat :=
  match c with
  | .generate _ _ => 0
  | .feedback confirmed vs => (g.feedback confirmed vs).2

/-- How many orders retire in some calls. -/
def retired (g : Generator τ) : List (Call σ) → Nat
  | [] => 0
  | c :: cs => c.retired g + (c.next g).retired cs

theorem run_append (g : Generator τ) (past : List Event) (cs cs' : List (Call σ)) :
    g.run past (cs ++ cs') = (g.run past cs).2.run (g.run past cs).1 cs' := by
  induction cs generalizing g past with
  | nil => rfl
  | cons c cs ih => exact ih (c.next g) (c.event g :: past)

/-- **A call brings no order in,** and those that it retires are gone. -/
theorem orders_call (g : Generator τ) (c : Call σ) :
    (c.next g).orders.items.Sublist g.orders.items ∧
      c.retired g + (c.next g).orders.size = g.orders.size := by
  cases c with
  | generate patience w =>
    have kept : (g.generate patience w).2.1.orders = g.orders :=
      (advances_generate patience g w).orders
    unfold Call.next Call.retired
    dsimp only
    rw [kept, Nat.zero_add]
    exact ⟨List.Sublist.refl _, rfl⟩
  | feedback confirmed vs =>
    refine ⟨?_, g.count_feedback confirmed vs⟩
    unfold Call.next
    dsimp only
    rw [(g.feedback_pools confirmed vs).1, Pool.items_reweight]
    exact items_foldl_retire g.space _ _

/-- **A run brings no order in,** and those that it retires are gone. -/
theorem orders_run (g : Generator τ) (past : List Event) (cs : List (Call σ)) :
    (g.run past cs).2.orders.items.Sublist g.orders.items ∧
      g.retired cs + (g.run past cs).2.orders.size = g.orders.size := by
  induction cs generalizing g past with
  | nil => exact ⟨List.Sublist.refl _, Nat.zero_add _⟩
  | cons c cs ih =>
    obtain ⟨kept, counted⟩ := g.orders_call c
    obtain ⟨keptLater, countedLater⟩ := ih (c.next g) (c.event g :: past)
    refine ⟨keptLater.trans kept, ?_⟩
    rw [run, retired]
    omega

/-- **Feedback retires the orders that direct violations name.** In any state and for any reports,
an order stays if and only if no report is a confirmed violation of a direct order, on an option of
the space, such that the option is one of integers and the order is one of the option, or the option
is one of names and the report lists the order. The count that is returned is by how many orders the
pool has shrunk. Reports in another order, or some of them repeated, lead to the same pools with the
same weights and to the same count. In a run of any calls the pool never regains an order, so that
those that have retired and those that are left are together as many as at the start. -/
theorem survives_feedback_iff (g : Generator τ) (confirmed : Violation → Bool) (vs : List Violation)
    (past : List Event) (cs later : List (Call σ)) :
    (∀ o, o ∈ (g.feedback confirmed vs).1.orders.items ↔ o ∈ g.orders.items ∧
      ¬ ∃ v ∈ vs, confirmed v = true ∧ v.isTransitive = false ∧
        ∃ d, g.space.dimension? v.option = some d ∧
          (d.isInteger = true ∧ o.option = v.option ∨
            d.isInteger = false ∧ ∃ held ∈ v.orders, held.toOrder = o)) ∧
    (g.feedback confirmed vs).2 + (g.feedback confirmed vs).1.orders.size = g.orders.size ∧
    (∀ vs', (∀ v, v ∈ vs' ↔ v ∈ vs) → g.feedback confirmed vs' = g.feedback confirmed vs) ∧
    (∀ o ∈ (g.run past (cs ++ later)).2.orders.items, o ∈ (g.run past cs).2.orders.items) ∧
    g.retired cs + (g.run past cs).2.orders.size = g.orders.size := by
  refine ⟨fun o => ?_, g.count_feedback confirmed vs, fun _ same => g.feedback_congr confirmed same,
    fun o ho => ?_, (g.orders_run past cs).2⟩
  · rw [mem_orders_feedback_iff]
    simp only [retires_iff]
  · rw [run_append] at ho
    exact (orders_run _ _ later).1.subset ho

open Comparison in
/-- A direct violation between the upper two of three levels, reported twice, and one of an order
that needs two steps. -/
def stairsReports : List Violation :=
  [stairsPair "A" "B" false, stairsPair "A" "C" true, stairsPair "A" "B" false]

open Comparison in
theorem survives_feedback_iff_stairs :
    (orderAt "A" .morePrecise "B" true false).toOrder ∉
        (stairsStart.feedback (fun _ => true) stairsReports).1.orders.items ∧
      stairsStart.feedback (fun _ => true) [stairsPair "A" "C" true, stairsPair "A" "B" false] =
        stairsStart.feedback (fun _ => true) stairsReports ∧
      stairsStart.retired stairsRun = 1 ∧ (stairsStart.run [] stairsRun).2.orders.size = 1 := by
  obtain ⟨stays, -, congr, -, counted⟩ := survives_feedback_iff stairsStart (fun _ => true)
    stairsReports [] stairsRun ([] : List (Call Replay))
  refine ⟨fun left => ?_, congr _ fun v => ?_, ?_⟩
  · refine ((stays _).mp left).2 ⟨stairsPair "A" "B" false, List.mem_cons_self, rfl, rfl,
      (Dimension.enumeration "k").after stairs.calls, by decide +kernel,
      .inr ⟨by decide +kernel, ?_⟩⟩
    exact ⟨_, List.mem_cons_self, rfl⟩
  · simp only [stairsReports, List.mem_cons, List.not_mem_nil, or_false]
    tauto
  · have left : (stairsStart.run [] stairsRun).2.orders.size = 1 := by decide +kernel
    have start : stairsStart.orders.size = 2 := by decide +kernel
    omega

end Generator
end OrderTrials
