import OrderTrials.Mutation
import OrderTrials.Pool
import OrderTrials.Violation
/-
# Campaigns

A campaign is the set of jobs of one round: a seed and its mutants for some orders, each on some
targets. The first campaign sweeps every order and every target from the default configuration.
Later ones start from a seed and draw orders and targets by weight. After each round, what the
comparison of the jobs found is fed back: orders that were contradicted retire, orders that were
left out gain weight, targets that showed a contradiction gain weight and all others lose some.

A source may yield texts that describe no configuration. The generator discards them, up to a
number of times in a row that its caller sets as its patience.

Key definitions: `Campaign`, `Generator`, `Generator.make`, `Generator.nextSeed`,
`Generator.generate`, `Generator.feedback`.
-/

namespace OrderTrials

/-- Why there is no next campaign. -/
inductive CampaignError where
  /-- Every order has retired. -/
  | exhausted
  /-- There are no targets. -/
  | noTargets
  /-- The source of seeds failed. -/
  | seedSource (failure : SeedFailure)
  /-- The space is at fault. -/
  | space (fault : SpaceError)
  /-- The source yielded too many texts in a row that describe no configuration. -/
  | impatient
  /-- More orders or targets are to be drawn than there can be room for. The program does not report
  this, it breaks off. -/
  | overflow
deriving DecidableEq, Inhabited

/-- The absence of a campaign in words. -/
def CampaignError.message : CampaignError → String
  | exhausted => "Every partial order has been explored, nothing left to test"
  | noTargets => "No benchmark targets were configured"
  | seedSource failure => "Seed source failed: " ++ failure.chain
  | space fault => fault.message
  | impatient => "Seed source failed: no usable seed"
  | overflow => PoolFault.overflow.message

/-- How many orders and targets a round draws. -/
structure Plan where
  ordersPerRound : Nat
  targetsPerRound : Nat
deriving DecidableEq, Inhabited

/-- The jobs of one round, and what they were made from. -/
structure Campaign where
  round : Nat
  seed : Configuration
  orders : List Order
  jobs : List Job
deriving DecidableEq, Inhabited

/-- What the rounds so far have led to. `seeds` is the state of the source of seeds. -/
structure Generator (τ : Type) where
  space : Space
  plan : Plan
  seeds : τ
  orders : Pool Order
  targets : Pool Target
  swept : Bool
  round : Nat
  selected : List Order
  discarded : Nat
deriving Inhabited

namespace Generator

variable {τ σ : Type}

/-- The generator before the first round. -/
def make (space : Space) (plan : Plan) (seeds : τ) (targets : List Target) :
    Except CampaignError (Generator τ) :=
  if targets.isEmpty then .error .noTargets
  else .ok {
    space, plan, seeds
    orders := .ofList space.declaredOrders
    targets := .ofList targets
    swept := false
    round := 0
    selected := []
    discarded := 0 }

/-- Whether every order has retired. -/
def isExhausted (g : Generator τ) : Bool := g.orders.isEmpty

/-- The configuration of the next text that describes one. Texts that do not are counted. -/
def nextSeed [SeedSource τ σ] (patience : Nat) (g : Generator τ) (s : σ) :
    Except CampaignError Configuration × Generator τ × σ :=
  match patience with
  | 0 => (.error .impatient, g, s)
  | patience + 1 =>
    match SeedSource.next g.seeds s with
    | (.error failure, seeds, s) => (.error (.seedSource failure), { g with seeds }, s)
    | (.ok text, seeds, s) =>
      match Configuration.parse g.space text with
      | .ok seed => (.ok seed, { g with seeds }, s)
      | .error _ => nextSeed patience { g with seeds, discarded := g.discarded + 1 } s

/-- What a round is made from: a seed, orders and targets. -/
structure Selection where
  seed : Configuration
  orders : List Order
  targets : List Target

/-- The selection of the first round: everything, from the default configuration. -/
def sweep (g : Generator τ) : Except CampaignError Selection :=
  match Configuration.default g.space with
  | .error fault => .error (.space fault)
  | .ok seed => .ok ⟨seed, g.orders.items, g.targets.items⟩

/-- The selection of a later round: the next seed, and orders and targets drawn by weight. -/
def select [Randomness σ] [SeedSource τ σ] (patience : Nat) (g : Generator τ) (s : σ) :
    Except CampaignError Selection × Generator τ × σ :=
  match g.nextSeed patience s with
  | (.error e, g, s) => (.error e, g, s)
  | (.ok seed, g, s) =>
    match g.orders.draw Random.below g.plan.ordersPerRound s with
    | (.error .empty, s) => (.error .exhausted, g, s)
    | (.error .overflow, s) => (.error .overflow, g, s)
    | (.ok orders, s) =>
      match g.targets.draw Random.below g.plan.targetsPerRound s with
      | (.error .empty, s) => (.error .noTargets, g, s)
      | (.error .overflow, s) => (.error .overflow, g, s)
      | (.ok targets, s) => (.ok ⟨seed, orders, targets⟩, g, s)

/-- The campaign of a selection, and the generator after it. -/
def commit [Randomness σ] (g : Generator τ) (chosen : Selection) (s : σ) :
    Except CampaignError Campaign × Generator τ × σ :=
  match Mutation.allMutants g.space chosen.seed chosen.orders [chosen.seed] s with
  | (.error fault, s) => (.error (.space fault), g, s)
  | (.ok configurations, s) =>
    let jobs := chosen.targets.flatMap fun target =>
      configurations.map fun configuration => ⟨configuration, target⟩
    (.ok ⟨g.round + 1, chosen.seed, chosen.orders, jobs⟩,
      { g with swept := true, round := g.round + 1, selected := chosen.orders }, s)

/-- The next campaign. -/
def generate [Randomness σ] [SeedSource τ σ] (patience : Nat) (g : Generator τ) (s : σ) :
    Except CampaignError Campaign × Generator τ × σ :=
  if g.isExhausted then (.error .exhausted, g, s)
  else if g.swept then
    match g.select patience s with
    | (.error e, g, s) => (.error e, g, s)
    | (.ok chosen, g, s) => g.commit chosen s
  else
    match g.sweep with
    | .error e => (.error e, g, s)
    | .ok chosen => g.commit chosen s

/-! ### Feedback -/

/-- How much a target gains that showed a contradiction. -/
def targetBoost : Nat := 10

/-- Whether a contradiction of the orders of `v` retires the order `o`. On an integer option all
orders retire together, because each of them stands for the whole range. -/
def retires (space : Space) (v : Violation) (o : Order) : Bool :=
  match space.dimension? v.option with
  | none => false
  | some d =>
    if d.isInteger then o.option == v.option
    else v.orders.any fun held => held.toOrder == o

/-- Retires the orders that a pair contradicts and counts them. -/
def retire (space : Space) (acc : Pool Order × Nat) (v : Violation) : Pool Order × Nat :=
  let kept := acc.1.removeWhere (retires space v)
  (kept, acc.2 + (acc.1.size - kept.size))

/-- Takes the outcome of the last round into account. `confirmed` decides which pairs are
violations; those of orders that need several steps have no effect. Returns how many orders have
retired. -/
def feedback (g : Generator τ) (confirmed : Violation → Bool) (vs : List Violation) :
    Generator τ × Nat :=
  let effective := vs.filter fun v => confirmed v && !v.isTransitive
  let (orders, retired) := effective.foldl (retire g.space) (g.orders, 0)
  let shown := effective.map (·.target)
  ({ g with
      orders := orders.reweight fun o w => if g.selected.contains o then w else w + 1
      targets := g.targets.reweight fun t w => if shown.contains t then w + targetBoost else w - 1
      selected := [] }, retired)

end Generator
end OrderTrials
