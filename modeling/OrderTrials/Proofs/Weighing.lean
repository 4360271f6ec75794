import OrderTrials.Proofs.Generating
/-
# The weights of a run

A generator is called any number of times, to generate or to take feedback, and generating can fail.
What its pools weigh after that can be told from what became of the calls alone, the latest first
(`Generator.Event`). An order weighs one more than the number of times that feedback came while it
was not among the orders of the latest campaign since the feedback before (`Event.missed`). The
weight of a target goes up by ten or down by one with each feedback, and not below one
(`Event.targetWeight`). The state of the generator that carries this from call to call is the list
of orders selected last (`Generator.Accounts`).

Key definitions: `Pool.Weighs`, `Generator.Call`, `Generator.Event`, `Generator.run`,
`Generator.Accounts`.
Key theorems: `Generator.Accounts.call`, `Generator.Accounts.run`, `Generator.weights_after_run`.
-/

namespace OrderTrials

/-! ### Weights of a pool -/

namespace Pool

universe u

variable {α : Type u} {p : Pool α} {f f' : α → Nat}

/-- Every item of the pool has the weight that a function says. -/
def Weighs (p : Pool α) (f : α → Nat) : Prop :=
  ∀ e ∈ p.entries, e.2 = f e.1

theorem Weighs.congr (h : p.Weighs f) (same : ∀ a, f a = f' a) : p.Weighs f' :=
  fun e he => (h e he).trans (same e.1)

/-- Removing items leaves the weights of the others. -/
theorem Weighs.removeWhere (h : p.Weighs f) (remove : α → Bool) :
    (p.removeWhere remove).Weighs f :=
  fun e he => h e (List.mem_filter.mp he).1

/-- New weights follow from the old ones, and none of them is below one. -/
theorem Weighs.reweight (h : p.Weighs f) (update : α → Nat → Nat) :
    (p.reweight update).Weighs fun a => max (update a (f a)) 1 := by
  intro e he
  obtain ⟨e', he', rfl⟩ := List.mem_map.mp he
  dsimp only
  rw [h e' he']

variable [DecidableEq α]

theorem weighs_ofList (items : List α) : (ofList items).Weighs fun _ => 1 := by
  have grows (es : List (α × Nat)) (ones : ∀ e ∈ es, e.2 = 1) :
      ∀ e ∈ items.foldl (fun es a => if es.any (·.1 == a) then es else es ++ [(a, 1)]) es,
        e.2 = 1 := by
    induction items generalizing es with
    | nil => exact ones
    | cons a items ih =>
      rw [List.foldl_cons]
      apply ih
      split
      · exact ones
      · intro e he
        rcases List.mem_append.mp he with he | he
        · exact ones e he
        · rw [List.mem_singleton.mp he]
  exact grows [] (fun e he => absurd he List.not_mem_nil)

/-- A weight that is looked up belongs to an entry of the item. -/
theorem mem_entries_of_weight? {a : α} {w : Nat} (h : p.weight? a = some w) : (a, w) ∈ p.entries := by
  obtain ⟨e, he, rfl⟩ := Option.map_eq_some_iff.mp h
  obtain rfl : e.1 = a := by simpa using List.find?_some he
  exact List.mem_of_find?_eq_some he

/-- Every item of the pool has a weight, and it is the one that the function says. -/
theorem Weighs.weight? (h : p.Weighs f) {a : α} (ha : a ∈ p.items) : p.weight? a = some (f a) := by
  obtain ⟨e, he, rfl⟩ := List.mem_map.mp ha
  have found : (p.weight? e.1).isSome = true := by
    rw [Pool.weight?, Option.isSome_map, List.find?_isSome]
    exact ⟨e, he, beq_self_eq_true e.1⟩
  obtain ⟨w, hw⟩ := Option.isSome_iff_exists.mp found
  have weight : w = f e.1 := h (e.1, w) (mem_entries_of_weight? hw)
  rw [hw, weight]

end Pool

namespace Generator

/-! ### Runs -/

/-- A call of a generator: for the next campaign, in some state of the world around it, or to take
feedback. -/
inductive Call (σ : Type) where
  | generate (patience : Nat) (world : σ)
  | feedback (confirmed : Violation → Bool) (vs : List Violation)

/-- What became of a call: a campaign for some orders, no campaign, or feedback. -/
inductive Event where
  | campaign (orders : List Order)
  | failure
  | feedback (confirmed : Violation → Bool) (vs : List Violation)

namespace Event

/-- The number of times that feedback was taken. -/
def feedbacks : List Event → Nat
  | [] => 0
  | .feedback _ _ :: past => feedbacks past + 1
  | _ :: past => feedbacks past

/-- The orders of the latest campaign since feedback was taken. -/
def latest : List Event → List Order
  | [] => []
  | .campaign orders :: _ => orders
  | .failure :: past => latest past
  | .feedback _ _ :: _ => []

/-- The number of times that feedback was taken while an order was not among those of the latest
campaign since the feedback before. -/
def missed (o : Order) : List Event → Nat
  | [] => 0
  | .feedback _ _ :: past => if o ∈ latest past then missed o past else missed o past + 1
  | _ :: past => missed o past

/-- The weight of a target: ten more after feedback with a violation on it whose main order is
direct, and else one less after feedback, but never less than one. -/
def targetWeight (t : Target) : List Event → Nat
  | [] => 1
  | .feedback confirmed vs :: past =>
    if ∃ v ∈ vs, confirmed v = true ∧ v.isTransitive = false ∧ v.target = t then
      targetWeight t past + 10
    else max (targetWeight t past - 1) 1
  | _ :: past => targetWeight t past

theorem missed_le_feedbacks (o : Order) (past : List Event) : missed o past ≤ feedbacks past := by
  induction past with
  | nil => exact Nat.le_refl 0
  | cons e past ih =>
    cases e with
    | campaign orders => exact ih
    | failure => exact ih
    | feedback confirmed vs =>
      rw [missed, feedbacks]
      split <;> omega

theorem targetWeight_bounds (t : Target) (past : List Event) :
    1 ≤ targetWeight t past ∧ targetWeight t past ≤ 1 + 10 * feedbacks past := by
  induction past with
  | nil => exact ⟨Nat.le_refl 1, Nat.le_refl 1⟩
  | cons e past ih =>
    cases e with
    | campaign orders => exact ih
    | failure => exact ih
    | feedback confirmed vs =>
      rw [targetWeight, feedbacks]
      split <;> omega

end Event

variable {τ σ : Type} {g : Generator τ} {past : List Event} {targets : List Target}

variable [Randomness σ] [SeedSource τ σ]

/-- What becomes of a call. -/
def Call.event (c : Call σ) (g : Generator τ) : Event :=
  match c with
  | .generate patience world =>
    match (g.generate patience world).1 with
    | .ok campaign => .campaign campaign.orders
    | .error _ => .failure
  | .feedback confirmed vs => .feedback confirmed vs

/-- The generator after a call. -/
def Call.next (c : Call σ) (g : Generator τ) : Generator τ :=
  match c with
  | .generate patience world => (g.generate patience world).2.1
  | .feedback confirmed vs => (g.feedback confirmed vs).1

/-- What became of some calls after others, the latest first, and the generator after them. -/
def run (g : Generator τ) (past : List Event) : List (Call σ) → List Event × Generator τ
  | [] => (past, g)
  | c :: cs => (c.next g).run (c.event g :: past) cs

/-! ### Selections -/

/-- A result selects its orders, if it is a campaign; else the selection stays. -/
def Selects (g : Generator τ) (out : Except CampaignError Campaign × Generator τ × σ) : Prop :=
  (∀ campaign, out.1 = .ok campaign → out.2.1.selected = campaign.orders) ∧
    ∀ e, out.1 = .error e → out.2.1.selected = g.selected

/-- **A campaign selects its orders,** and without one the selection stays. -/
theorem selects_generate (patience : Nat) (g : Generator τ) (w : σ) :
    g.Selects (g.generate patience w) := by
  have outcome := g.generate_outcome patience w
  generalize g.generate patience w = out at outcome
  cases outcome with
  | exhausted _ =>
    refine ⟨fun _ h => ?_, fun _ _ => rfl⟩
    cases h
  | failed _ _ _ _ _ =>
    refine ⟨fun _ h => ?_, fun _ _ => rfl⟩
    cases h
  | campaign _ _ _ _ _ _ =>
    constructor
    · intro _ h
      obtain rfl := Except.ok.inj h
      rfl
    · intro _ h
      cases h

/-! ### Accounts -/

/-- The state of a generator follows from what became of the calls so far: its selection, and the
weights in its pools. -/
structure Accounts (past : List Event) (g : Generator τ) : Prop where
  selected : g.selected = Event.latest past
  orders : g.orders.Weighs fun o => 1 + Event.missed o past
  targets : g.targets.Weighs fun t => Event.targetWeight t past

theorem accounts_make {space : Space} {plan : Plan} {seeds : τ}
    (h : make space plan seeds targets = .ok g) : g.Accounts [] := by
  unfold make at h
  split at h
  · cases h
  · obtain rfl := Except.ok.inj h
    exact ⟨rfl, Pool.weighs_ofList _, Pool.weighs_ofList _⟩

/-- The pairs that feedback takes into account. -/
def effective (confirmed : Violation → Bool) (vs : List Violation) : List Violation :=
  vs.filter fun v => confirmed v && !v.isTransitive

/-- The pools after feedback. -/
theorem feedback_pools (g : Generator τ) (confirmed : Violation → Bool) (vs : List Violation) :
    (g.feedback confirmed vs).1.orders =
        ((effective confirmed vs).foldl (retire g.space) (g.orders, 0)).1.reweight
          (fun o w => if g.selected.contains o then w else w + 1) ∧
      (g.feedback confirmed vs).1.targets = g.targets.reweight fun t w =>
        if ((effective confirmed vs).map (·.target)).contains t then w + targetBoost else w - 1 :=
  ⟨rfl, rfl⟩

theorem contains_targets_iff (confirmed : Violation → Bool) (vs : List Violation) (t : Target) :
    ((effective confirmed vs).map (·.target)).contains t = true ↔
      ∃ v ∈ vs, confirmed v = true ∧ v.isTransitive = false ∧ v.target = t := by
  simp [effective, and_assoc]

/-- **Feedback.** The orders that stay and were not selected gain one, and the targets gain or lose
as their violations say. -/
theorem Accounts.feedback (h : g.Accounts past) (confirmed : Violation → Bool)
    (vs : List Violation) :
    (g.feedback confirmed vs).1.Accounts (.feedback confirmed vs :: past) := by
  obtain ⟨orders, targets⟩ := g.feedback_pools confirmed vs
  refine ⟨rfl, ?_, ?_⟩
  · rw [orders, foldl_retire]
    refine ((h.orders.removeWhere _).reweight _).congr fun o => ?_
    rw [h.selected, Event.missed]
    by_cases selected : o ∈ Event.latest past
    · rw [if_pos (List.contains_iff_mem.mpr selected), if_pos selected]
      omega
    · rw [if_neg (fun c => selected (List.contains_iff_mem.mp c)), if_neg selected]
      omega
  · rw [targets]
    refine (h.targets.reweight _).congr fun t => ?_
    rw [Event.targetWeight]
    have shown := contains_targets_iff confirmed vs t
    by_cases gains : ∃ v ∈ vs, confirmed v = true ∧ v.isTransitive = false ∧ v.target = t
    · rw [if_pos (shown.mpr gains), if_pos gains, targetBoost]
      omega
    · rw [if_neg (fun c => gains (shown.mp c)), if_neg gains]

/-- **One call.** The accounts of before and what became of the call are the accounts of after. -/
theorem Accounts.call (h : g.Accounts past) (c : Call σ) :
    (c.next g).Accounts (c.event g :: past) := by
  cases c with
  | feedback confirmed vs => exact h.feedback confirmed vs
  | generate patience w =>
    obtain ⟨campaigns, failures⟩ := selects_generate patience g w
    have advances := advances_generate patience g w
    have orders := advances.orders ▸ h.orders
    have targets := advances.targets ▸ h.targets
    unfold Call.event Call.next
    dsimp only
    split
    · rename_i campaign generated
      exact ⟨campaigns campaign generated, orders, targets⟩
    · rename_i e failed
      exact ⟨(failures e failed).trans h.selected, orders, targets⟩

/-- **Any run** keeps the accounts. -/
theorem Accounts.run (h : g.Accounts past) (cs : List (Call σ)) :
    (g.run past cs).2.Accounts (g.run past cs).1 := by
  -- The accounts of any state carry over, so the induction is on the calls that are left.
  induction cs generalizing g past with
  | nil => exact h
  | cons c cs ih => exact ih (h.call c)

theorem Reachable.run {space : Space} {plan : Plan} (h : g.Reachable σ space plan targets)
    (past : List Event) (cs : List (Call σ)) :
    (g.run past cs).2.Reachable σ space plan targets := by
  induction cs generalizing g past with
  | nil => exact h
  | cons c cs ih =>
    cases c with
    | generate patience w => exact ih (h.generate patience w) _
    | feedback confirmed vs => exact ih (h.feedback confirmed vs) _

/-- **Weights after any run.** Let a generator be made and called any number of times, to generate or
to take feedback, and let generating fail or not. Each order that is left weighs one more than the
number of times that feedback came while it was not among the orders of the latest campaign since
the feedback before. Each target is still there, and its weight has gone up by ten with each feedback
that confirmed a direct violation on it, and down by one with each other, from one and never below.
So with `n` times of feedback the weights of orders are at most `1 + n` and those of targets at most
`1 + 10 * n`, and the sums that the next feedback forms are words of 32 bits for `n < 429496729`.

The program keeps weights in words of 32 bits, while the weights here have no bound. So the first
two clauses give the weights of the program only as long as no sum has left the words, which the last
two ensure for up to 429496729 times of feedback. -/
theorem weights_after_run {space : Space} {plan : Plan} {seeds : τ} {g' : Generator τ}
    (made : make space plan seeds targets = .ok g) (cs : List (Call σ))
    (ran : g.run [] cs = (past, g')) :
    (∀ o ∈ g'.orders.items, g'.orders.weight? o = some (1 + Event.missed o past)) ∧
    (∀ t ∈ targets, g'.targets.weight? t = some (Event.targetWeight t past)) ∧
    (∀ o w, g'.orders.weight? o = some w → 1 ≤ w ∧ w ≤ 1 + Event.feedbacks past ∧
      (Event.feedbacks past < 429496729 → w + 1 < UInt32.size)) ∧
    ∀ t w, g'.targets.weight? t = some w → 1 ≤ w ∧ w ≤ 1 + 10 * Event.feedbacks past ∧
      (Event.feedbacks past < 429496729 → w + targetBoost < UInt32.size) := by
  have accounts := (accounts_make made).run cs
  have reached := (Reachable.make (σ := σ) made).run [] cs
  rw [ran] at accounts reached
  have words : UInt32.size = 4294967296 := rfl
  refine ⟨fun o ho => accounts.orders.weight? ho,
    fun t ht => accounts.targets.weight? ((reached.lawful.given t).mpr ht), ?_, ?_⟩
  · intro o w h
    obtain rfl : w = 1 + Event.missed o past := accounts.orders _ (Pool.mem_entries_of_weight? h)
    have := Event.missed_le_feedbacks o past
    omega
  · intro t w h
    obtain rfl : w = Event.targetWeight t past := accounts.targets _ (Pool.mem_entries_of_weight? h)
    have := Event.targetWeight_bounds t past
    rw [targetBoost]
    omega

open Comparison in
/-- The sweep and its feedback, a campaign of one order, a failure because the seeds are used up, and
feedback with a direct violation. -/
def stairsRun : List (Call Replay) :=
  [.generate 1 (.ofList []), .feedback (fun _ => true) [], .generate 1 (.ofList []),
    .generate 1 (.ofList []), .feedback (fun _ => true) [stairsPair "A" "B" false]]

open Comparison in
theorem weights_after_run_stairs :
    (stairsStart.run [] stairsRun).2.orders.weight?
        (orderAt "B" .morePrecise "C" true false).toOrder = some 2 ∧
      (stairsStart.run [] stairsRun).2.targets.weight? ⟨"p"⟩ = some 11 := by
  have left : (orderAt "B" .morePrecise "C" true false).toOrder ∈
      (stairsStart.run [] stairsRun).2.orders.items := by decide +kernel
  have missed : Event.missed (orderAt "B" .morePrecise "C" true false).toOrder
      (stairsStart.run [] stairsRun).1 = 1 := by decide +kernel
  have gained : Event.targetWeight ⟨"p"⟩ (stairsStart.run [] stairsRun).1 = 11 := by decide +kernel
  have ran : stairsStart.run [] stairsRun =
      ((stairsStart.run [] stairsRun).1, (stairsStart.run [] stairsRun).2) := rfl
  obtain ⟨orders, targets, -⟩ := weights_after_run make_stairsStart stairsRun ran
  rw [orders _ left, targets _ (List.mem_singleton.mpr rfl), missed, gained]
  exact ⟨rfl, rfl⟩

end Generator
end OrderTrials
