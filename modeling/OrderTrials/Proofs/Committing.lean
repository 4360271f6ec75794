import OrderTrials.Proofs.Failing
import OrderTrials.Proofs.Tallying
/-
# Failures commit nothing

A call for a campaign that fails has looked for a seed and drawn at random, and that is all it has
done: the pools, the count of rounds and the selection are as before (`Generator.generate_outcome`).
So the sweep stays due through any failures and feedback (`Generator.unswept_run`), and the first
campaign that comes is the sweep of what is left (`Generator.fullSweep_of_generate`). Without orders
nothing at all happens, and no order comes back, so this is how it stays
(`Generator.exhausted_run`). Targets never leave, and hence are never missing.

Key definitions: `Generator.FullSweep`.
Key theorems: `Generator.Reachable.has_targets`, `Generator.exhausted_run`,
`Generator.unswept_run`, `Generator.fullSweep_of_generate`, `Generator.failure_commits_nothing`.
-/

namespace OrderTrials

namespace Generator

variable {τ σ : Type} {g : Generator τ} {s : Space} {plan : Plan} {targets : List Target}
  {patience : Nat} {w : σ} {campaign : Campaign}

theorem isExhausted_iff (g : Generator τ) : g.isExhausted = true ↔ g.orders.items = [] := by
  rw [isExhausted, Pool.isEmpty, List.isEmpty_iff, Pool.items, List.map_eq_nil_iff]

variable [Randomness σ] [SeedSource τ σ]

/-! ### No orders, no targets -/

/-- **Without orders nothing happens.** -/
theorem generate_of_exhausted (empty : g.orders.items = []) (patience : Nat) (w : σ) :
    g.generate patience w = (.error .exhausted, g, w) := by
  rw [generate, if_pos (g.isExhausted_iff.mpr empty)]

/-- No order comes back. -/
theorem exhausted_run (empty : g.orders.items = []) (past : List Event) (cs : List (Call σ)) :
    (g.run past cs).2.orders.items = [] :=
  List.sublist_nil.mp (empty ▸ (g.orders_run past cs).1)

/-- **Targets are never missing:** a generator is made with some, and keeps them. -/
theorem Reachable.has_targets (h : g.Reachable σ s plan targets) : g.targets.isEmpty = false := by
  have given : targets ≠ [] := by
    induction h with
    | make made =>
      unfold Generator.make at made
      split at made
      · cases made
      · rename_i some
        exact fun none => some (List.isEmpty_iff.mpr none)
    | generate _ _ _ ih => exact ih
    | feedback _ _ _ ih => exact ih
  obtain ⟨t, ht⟩ := List.exists_mem_of_ne_nil targets given
  have kept := (h.lawful.given t).mpr ht
  rw [Pool.isEmpty, List.isEmpty_eq_false_iff]
  intro none
  rw [Pool.items, none] at kept
  exact absurd kept List.not_mem_nil

theorem Reachable.ne_noTargets (h : g.Reachable σ s plan targets) (patience : Nat) (w : σ) :
    (g.generate patience w).1 ≠ .error .noTargets := by
  have outcome := g.generate_outcome patience w
  generalize g.generate patience w = out at outcome
  intro failed
  cases outcome with
  | exhausted _ => cases failed
  | campaign _ _ _ _ _ _ => cases failed
  | failed _ _ _ _ failure =>
    obtain rfl := Except.error.inj failed
    cases failure with
    | seedless seedless => exact seedless
    | noTargets empty => exact absurd (empty.symm.trans h.has_targets) Bool.noConfusion

/-! ### The sweep stays due -/

/-- Whether a campaign came of a call. -/
def Event.isCampaign : Event → Bool
  | .campaign _ => true
  | _ => false

/-- What became of the calls before a run is kept. -/
theorem mem_run {e : Event} {past : List Event} (he : e ∈ past) (g : Generator τ)
    (cs : List (Call σ)) : e ∈ (g.run past cs).1 := by
  induction cs generalizing g past with
  | nil => exact he
  | cons c cs ih => exact ih (List.mem_cons_of_mem _ he) (c.next g)

/-- A call that yields no campaign leaves the sweep due. -/
theorem unswept_call (unswept : g.swept = false) (c : Call σ)
    (none : (c.event g).isCampaign = false) : (c.next g).swept = false := by
  cases c with
  | feedback confirmed vs => exact unswept
  | generate patience w =>
    unfold Call.event at none
    unfold Call.next
    dsimp only at none ⊢
    have outcome := g.generate_outcome patience w
    generalize g.generate patience w = out at outcome none
    cases outcome with
    | exhausted _ => exact unswept
    | failed _ _ _ _ _ => exact unswept
    | campaign _ _ _ _ _ _ => cases none

/-- **A run without a campaign leaves the sweep due.** -/
theorem unswept_run (unswept : g.swept = false) (past : List Event) (cs : List (Call σ))
    (none : ∀ e ∈ (g.run past cs).1, e.isCampaign = false) :
    (g.run past cs).2.swept = false := by
  induction cs generalizing g past with
  | nil => exact unswept
  | cons c cs ih =>
    have first := none (c.event g) (mem_run List.mem_cons_self (c.next g) cs)
    exact ih (unswept_call unswept c first) _ none

variable (σ) in
/-- A campaign sweeps everything: it is the first one, it starts from the default configuration, and
its jobs are that configuration and its mutants for all orders that are left, on all targets. -/
structure FullSweep (targets : List Target) (g : Generator τ) (campaign : Campaign) : Prop where
  round : campaign.round = 1
  seed : Configuration.default g.space = .ok campaign.seed
  orders : campaign.orders = g.orders.items
  targets : ∀ t, t ∈ g.targets.items ↔ t ∈ targets
  jobs : ∃ configurations, ∃ w w' : σ,
    Mutation.allMutants g.space campaign.seed campaign.orders [campaign.seed] w =
      (.ok configurations, w') ∧
    campaign.jobs = product configurations g.targets.items

/-- **While the sweep is due, a campaign is the sweep.** -/
theorem fullSweep_of_generate (lawful : g.Lawful s plan targets) (unswept : g.swept = false)
    (generated : (g.generate patience w).1 = .ok campaign) : FullSweep σ targets g campaign := by
  obtain ⟨chosen, configurations, w₁, w₂, selected, mutants, rfl⟩ := generate_ok lawful generated
  obtain ⟨seed, orders, all⟩ := selected.first unswept
  have first : g.round = 0 := by
    have started := lawful.swept.not.mp (Bool.eq_false_iff.mp unswept)
    omega
  exact
    { round := congrArg (· + 1) first
      seed, orders
      targets := lawful.given
      jobs := ⟨configurations, w₁, w₂, mutants, all ▸ rfl⟩ }

/-- **A failure commits nothing.** From every state that a generator reaches, whatever the seeds and
the random words: that every order has retired is said if and only if the pool of orders is empty.
Then nothing changes, in the generator or around it, and so it goes for every later call, whatever
feedback comes in between. That there are no targets is never said. After a failure of any kind the
generator is as before, but for the source of seeds and the count of discarded texts; in particular
a sweep that failed stays due, and the first campaign after it, past any feedback and other failures,
is a full sweep. With a campaign the round counts, the sweep is over, the orders of the campaign are
selected, and the pools stay as they are, with their weights. -/
theorem failure_commits_nothing (reachable : g.Reachable σ s plan targets) (patience : Nat) (w : σ) :
    ((g.generate patience w).1 = .error .exhausted ↔ g.orders.items = []) ∧
    (g.orders.items = [] → g.generate patience w = (.error .exhausted, g, w) ∧
      ∀ (past : List Event) (cs : List (Call σ)) (patience' : Nat) (w' : σ),
        (g.run past cs).2.generate patience' w' = (.error .exhausted, (g.run past cs).2, w')) ∧
    (g.generate patience w).1 ≠ .error .noTargets ∧
    (∀ e g' w', g.generate patience w = (.error e, g', w') →
      (∃ seeds discarded, g' = { g with seeds, discarded }) ∧
      (g.swept = false → ∀ cs : List (Call σ),
        (∀ e ∈ (g'.run [] cs).1, e.isCampaign = false) →
          ∀ (patience' : Nat) (w'' : σ) (campaign : Campaign),
            ((g'.run [] cs).2.generate patience' w'').1 = .ok campaign →
              FullSweep σ targets (g'.run [] cs).2 campaign)) ∧
    ∀ campaign g' w', g.generate patience w = (.ok campaign, g', w') →
      campaign.round = g.round + 1 ∧ ∃ seeds discarded, g' = { g with
        seeds, discarded, swept := true, round := g.round + 1, selected := campaign.orders } := by
  have outcome := g.generate_outcome patience w
  refine ⟨?_, fun empty => ⟨generate_of_exhausted empty patience w, fun past cs =>
    generate_of_exhausted (exhausted_run empty past cs)⟩, ?_, fun e g' w' failed => ?_,
    fun campaign g' w' generated => ?_⟩
  · constructor
    · intro ended
      exact g.isExhausted_iff.mp (generate_exhausted (Prod.ext ended rfl)).1
    · intro empty
      rw [generate_of_exhausted empty]
  · exact reachable.ne_noTargets patience w
  · have next := reachable.generate patience w
    rw [failed] at outcome next
    have frame : ∃ seeds discarded, g' = { g with seeds, discarded } := by
      cases outcome with
      | exhausted _ => exact ⟨_, _, rfl⟩
      | failed seeds discarded _ _ _ => exact ⟨seeds, discarded, rfl⟩
    refine ⟨frame, fun unswept cs none patience' w'' campaign generated => ?_⟩
    obtain ⟨seeds, discarded, same⟩ := frame
    have due : g'.swept = false := (congrArg Generator.swept same).trans unswept
    exact fullSweep_of_generate (next.run [] cs).lawful (unswept_run due [] cs none) generated
  · rw [generated] at outcome
    cases outcome with
    | campaign _ seeds discarded _ _ numbered => exact ⟨numbered, seeds, discarded, rfl⟩

/-! ### A sweep that fails at first -/

open Comparison

/-- An option of three names, of which the last one is also that of a placeholder. -/
def signs : OptionEntry :=
  ⟨"k", false, ["A", "B", "i"], none, none, some "A", [],
    [⟨.morePrecise, "A", "B"⟩, ⟨.morePrecise, "B", "i"⟩]⟩

/-- The dimension of the option. -/
def signsDimension : Dimension := (Dimension.enumeration "k").after signs.calls

/-- A generator for the three names before its first round. -/
def signsStart : Generator ListedSeeds := startOf (spaceOf signsDimension) signs.declared []

theorem make_signsStart :
    make (spaceOf signsDimension) ⟨1, 1⟩ ⟨[]⟩ [⟨"p"⟩] = .ok signsStart := by
  refine make_startOf ?_ []
  have sound : (signsDimension.graph .moreSound).declaredPairs = [] :=
    declaredPairs_of_ascending (by decide +kernel) (by decide +kernel)
  have precise : (signsDimension.graph .morePrecise).declaredPairs = [("A", "B"), ("B", "i")] :=
    declaredPairs_of_ascending (by decide +kernel) (by decide +kernel)
  rw [declaredOrders_spaceOf sound precise]
  decide +kernel

/-- Another try, and feedback that retires the order with the name of a placeholder. -/
def signsRun : List (Call Replay) :=
  [.generate 1 (.ofList []), .feedback (fun _ => true) [stairsPair "B" "i" false]]

/-- The sweep of the order that is left. -/
def signsSweep : Campaign :=
  let seed : Configuration := ⟨Table.empty.insert "k" ⟨"k", "A"⟩, none⟩
  ⟨1, seed, [(orderAt "A" .morePrecise "B" true false).toOrder],
    product [seed, (jobAt "B").configuration] [⟨"p"⟩]⟩

/-- What is left is swept after two failures. -/
theorem failure_commits_nothing_signs :
    ∃ g' w' campaign, signsStart.generate 1 (Replay.ofList []) =
        (.error (.space (.unregisteredLevel "k" "i")), g', w') ∧ g'.orders = signsStart.orders ∧
      FullSweep Replay [⟨"p"⟩] (g'.run [] signsRun).2 campaign ∧ campaign.orders.length = 1 := by
  obtain ⟨-, -, -, failures, -⟩ :=
    failure_commits_nothing (.make make_signsStart) 1 (Replay.ofList [])
  have failed : (signsStart.generate 1 (Replay.ofList [])).1 =
      .error (.space (.unregisteredLevel "k" "i")) := by decide +kernel
  generalize g'_def : (signsStart.generate 1 (Replay.ofList [])).2.1 = g'
  have ran : signsStart.generate 1 (Replay.ofList []) =
      (.error (.space (.unregisteredLevel "k" "i")), g', _) :=
    Prod.ext failed (Prod.ext g'_def rfl)
  obtain ⟨⟨seeds, discarded, same⟩, sweeps⟩ := failures _ _ _ ran
  have generated : ((g'.run [] signsRun).2.generate 1 (Replay.ofList [])).1 = .ok signsSweep := by
    rw [← g'_def]
    decide +kernel
  have none : ∀ e ∈ (g'.run [] signsRun).1, e.isCampaign = false := by
    rw [← g'_def]
    decide +kernel
  exact ⟨g', _, signsSweep, ran, by rw [same],
    sweeps rfl signsRun none 1 (Replay.ofList []) signsSweep generated, rfl⟩

end Generator
end OrderTrials
