import OrderTrials.Proofs.Committing
/-
# Seeds that are skipped

The generator asks its source until a text describes a configuration. The answers of a source to
calls in a row are a sequence (`SeedSource.ask`), and each answer either settles the search, with a
seed or a failure, or is discarded (`Configuration.settle`). The search consumes the answers up to
the first one that settles it and no other (`Generator.nextSeed_of_settle`). What remains of a round
then asks the source no more (`Generator.proceed`). It breaks off if more is to be drawn than there
can be room for, and otherwise cannot fail: the sweep has exercised every order that is left, and
whether an order can be exercised depends on the space alone (`Mutation.allMutants_defined_iff`,
`Generator.Reachable.exercisable`). So one answer decides each round, and over a run the answers that
settle are the seeds of the campaigns and the failures that were reported, in order
(`Generator.run_settles`).

Key definitions: `SeedSource.ask`, `SeedSource.Gives`, `Configuration.settle`,
`Mutation.Exercisable`, `Generator.proceed`, `Generator.replies`.
Key theorems: `Mutation.allMutants_defined_iff`, `Generator.nextSeed_succ`,
`Generator.nextSeed_of_settle`, `Generator.Reachable.exercisable`, `Generator.proceed_ok`,
`Generator.first_seed_is_used`, `Generator.run_settles`.
-/

namespace OrderTrials

/-! ### Answers of a source -/

namespace SeedSource

variable {τ σ : Type} [SeedSource τ σ]

/-- The answers of a source to a number of calls in a row, and the states after them. -/
def ask : Nat → τ → σ → List (Except SeedFailure String) × τ × σ
  | 0, seeds, w => ([], seeds, w)
  | n + 1, seeds, w =>
    let (answer, seeds, w) := next seeds w
    let (answers, seeds, w) := ask n seeds w
    (answer :: answers, seeds, w)

theorem ask_succ_eq_iff {n : Nat} {seeds seeds' : τ} {w w' : σ}
    {answer : Except SeedFailure String} {answers : List (Except SeedFailure String)} :
    ask (n + 1) seeds w = (answer :: answers, seeds', w') ↔
      ∃ seeds₁ w₁, next seeds w = (answer, seeds₁, w₁) ∧
        ask n seeds₁ w₁ = (answers, seeds', w') := by
  constructor
  · intro asked
    obtain ⟨same, rest⟩ := Prod.mk.inj asked
    obtain ⟨first, others⟩ := List.cons.inj same
    exact ⟨_, _, Prod.ext first rfl, Prod.ext others rest⟩
  · rintro ⟨seeds₁, w₁, first, others⟩
    rw [ask, first]
    dsimp only
    rw [others]

variable (σ) in
/-- A source gives some answers in this order, whatever happens around it in between. -/
inductive Gives : τ → List (Except SeedFailure String) → τ → Prop where
  | nothing (seeds : τ) : Gives seeds [] seeds
  | next {seeds seeds₁ seeds' : τ} {w w' : σ} {answer : Except SeedFailure String}
      {answers : List (Except SeedFailure String)} :
      SeedSource.next seeds w = (answer, seeds₁, w') → Gives seeds₁ answers seeds' →
      Gives seeds (answer :: answers) seeds'

variable {seeds seeds₁ seeds' : τ} {first later : List (Except SeedFailure String)}

theorem Gives.append (h : Gives σ seeds first seeds₁) (h' : Gives σ seeds₁ later seeds') :
    Gives σ seeds (first ++ later) seeds' := by
  induction h with
  | nothing _ => exact h'
  | next given _ ih => exact .next given (ih h')

/-- Answers to calls in a row are given in this order. -/
theorem gives_ask (n : Nat) (seeds : τ) (w : σ) :
    Gives σ seeds (ask n seeds w).1 (ask n seeds w).2.1 := by
  induction n generalizing seeds w with
  | zero => exact .nothing seeds
  | succ n ih => exact .next rfl (ih _ _)

end SeedSource

/-- What an answer of a source settles: a seed or a failure, or nothing if it is a text that
describes no configuration. -/
def Configuration.settle (s : Space) :
    Except SeedFailure String → Option (Except SeedFailure Configuration)
  | .error failure => some (.error failure)
  | .ok text =>
    match parse s text with
    | .ok seed => some (.ok seed)
    | .error _ => none

theorem Configuration.settle_of_parse {s : Space} {text : String} {seed : Configuration}
    (h : parse s text = .ok seed) : settle s (.ok text) = some (.ok seed) := by
  rw [settle, h]

theorem Configuration.settle_eq_none {s : Space} {text : String}
    (h : ∀ seed, parse s text ≠ .ok seed) : settle s (.ok text) = none := by
  rw [settle]
  split
  · rename_i seed parsed
    exact absurd parsed (h seed)
  · rfl

/-! ### Orders that can be exercised -/

namespace Mutation

variable {σ : Type} [Randomness σ] {s : Space} {d : Dimension} {o : Order} {os : List Order}

/-- An order can be exercised: its option is there, and has bounds if a side is a placeholder. -/
def Exercisable (s : Space) (o : Order) : Prop :=
  ∃ d, s.dimension o.option = .ok d ∧ ∀ side, side = o.left ∨ side = o.right →
    side.isPlaceholder = true → ∃ least greatest, d.least = some least ∧ d.greatest = some greatest

theorem concrete_defined_iff (d : Dimension) (side : Level) (w : σ) :
    (∃ l w', concrete d side w = (.ok l, w')) ↔ (side.isPlaceholder = true →
      ∃ least greatest, d.least = some least ∧ d.greatest = some greatest) := by
  unfold concrete Dimension.drawInteger
  split
  · cases d.least with
    | none => simp [*]
    | some least =>
      cases d.greatest with
      | none => simp [*]
      | some greatest => simp [*]
  · simp [*]

/-- **Whether an order can be exercised** depends neither on the seed nor on the random words. -/
theorem mutants_defined_iff (s : Space) (o : Order) (seed : Configuration) (w : σ) :
    (∃ ms w', mutants s seed o w = (.ok ms, w')) ↔ Exercisable s o := by
  unfold mutants
  constructor
  · rintro ⟨ms, w', made⟩
    split at made
    · cases made
    rename_i d found
    dsimp only at made
    split at made
    · cases made
    rename_i left w₁ leftRuns
    split at made
    · cases made
    rename_i right w₂ rightRuns
    refine ⟨d, found, fun side hside => ?_⟩
    rcases hside with rfl | rfl
    · exact (concrete_defined_iff d o.left w).mp ⟨left, w₁, leftRuns⟩
    · exact (concrete_defined_iff d o.right w₁).mp ⟨right, w₂, rightRuns⟩
  · rintro ⟨d, found, bounded⟩
    obtain ⟨left, w₁, leftRuns⟩ := (concrete_defined_iff d o.left w).mpr (bounded _ (.inl rfl))
    obtain ⟨right, w₂, rightRuns⟩ := (concrete_defined_iff d o.right w₁).mpr (bounded _ (.inr rfl))
    simp only [found, leftRuns, rightRuns]
    exact ⟨_, _, rfl⟩

theorem allMutants_defined_iff (s : Space) (seed : Configuration) (os : List Order)
    (found : List Configuration) (w : σ) :
    (∃ cs w', allMutants s seed os found w = (.ok cs, w')) ↔ ∀ o ∈ os, Exercisable s o := by
  induction os generalizing found w with
  | nil => simp [allMutants]
  | cons o os ih =>
    rw [List.forall_mem_cons, ← mutants_defined_iff s o seed w]
    unfold allMutants
    constructor
    · rintro ⟨cs, w', made⟩
      split at made
      · cases made
      · rename_i ms w₁ first
        exact ⟨⟨ms, w₁, first⟩, (ih _ _).mp ⟨cs, w', made⟩⟩
    · rintro ⟨⟨ms, w₁, first⟩, rest⟩
      rw [first]
      exact (ih _ _).mpr rest

end Mutation

namespace Generator

open Configuration (settle settle_of_parse settle_eq_none)
open Mutation (Exercisable)
open SeedSource (ask ask_succ_eq_iff Gives)

variable {τ σ : Type} {g g' : Generator τ} {s : Space} {plan : Plan} {targets : List Target}
  {patience : Nat} {w w' : σ} {seed : Configuration} {seeds : τ}

/-! ### The search -/

section

variable [SeedSource τ σ]

/-- **One answer** either settles the search, or is counted and the search goes on. -/
theorem nextSeed_succ {answer : Except SeedFailure String}
    (given : SeedSource.next g.seeds w = (answer, seeds, w')) :
    g.nextSeed (patience + 1) w =
      match settle g.space answer with
      | some outcome => (outcome.mapError .seedSource, { g with seeds }, w')
      | none => nextSeed patience { g with seeds, discarded := g.discarded + 1 } w' := by
  rw [nextSeed, given]
  cases answer with
  | error failure => rfl
  | ok text =>
    dsimp only
    rw [settle]
    cases Configuration.parse g.space text with
    | ok seed => rfl
    | error fault => rfl

/-- **The first answer that settles the search decides it.** The answers before it are counted, and
none after it is asked for. -/
theorem nextSeed_of_settle {rejected : List (Except SeedFailure String)}
    {last : Except SeedFailure String} {outcome : Except SeedFailure Configuration}
    (asked : ask (rejected.length + 1) g.seeds w = (rejected ++ [last], seeds, w'))
    (skipped : ∀ answer ∈ rejected, settle g.space answer = none)
    (settled : settle g.space last = some outcome) (patient : rejected.length < patience) :
    g.nextSeed patience w = (outcome.mapError .seedSource,
      { g with seeds, discarded := g.discarded + rejected.length }, w') := by
  induction rejected generalizing g w patience with
  | nil =>
    obtain ⟨patience, rfl⟩ := Nat.exists_eq_add_of_lt patient
    obtain ⟨seeds₁, w₁, given, rest⟩ := ask_succ_eq_iff.mp asked
    cases rest
    rw [nextSeed_succ given, settled]
    rfl
  | cons answer rejected ih =>
    obtain ⟨more, rfl⟩ := Nat.exists_eq_add_of_lt patient
    obtain ⟨seeds₁, w₁, given, rest⟩ := ask_succ_eq_iff.mp asked
    have later := ih (g := { g with seeds := seeds₁, discarded := g.discarded + 1 }) rest
      (fun a ha => skipped a (List.mem_cons_of_mem _ ha)) settled
      (show rejected.length < (answer :: rejected).length + more by rw [List.length_cons]; omega)
    rw [nextSeed_succ given, skipped answer List.mem_cons_self]
    dsimp only
    rw [later, List.length_cons, Nat.add_assoc, Nat.add_comm 1]

/-- What a result of the search says that an answer settled. -/
def settledBy : Except CampaignError Configuration → Option (Except SeedFailure Configuration)
  | .ok seed => some (.ok seed)
  | .error (.seedSource failure) => some (.error failure)
  | .error _ => none

theorem settledBy_mapError (outcome : Except SeedFailure Configuration) :
    settledBy (outcome.mapError .seedSource) = some outcome := by
  cases outcome with
  | ok seed => rfl
  | error failure => rfl

/-- **What a search consumes:** answers that are discarded, and at most one that settles it, which
then is its result. -/
theorem nextSeed_settles (patience : Nat) (g : Generator τ) (w : σ) :
    ∃ answers, Gives σ g.seeds answers (g.nextSeed patience w).2.1.seeds ∧
      (g.nextSeed patience w).2.1.discarded =
        g.discarded + (answers.filter fun a => (settle g.space a).isNone).length ∧
      answers.filterMap (settle g.space) = (settledBy (g.nextSeed patience w).1).toList := by
  induction patience generalizing g w with
  | zero => exact ⟨[], .nothing _, rfl, rfl⟩
  | succ patience ih =>
    rcases given : SeedSource.next g.seeds w with ⟨answer, seeds₁, w₁⟩
    rw [nextSeed_succ given]
    cases settled : settle g.space answer with
    | some outcome =>
      refine ⟨[answer], .next given (.nothing _), ?_, ?_⟩
      · rw [List.filter_cons_of_neg (by simp [settled])]
        rfl
      · rw [List.filterMap_cons_some settled, settledBy_mapError]
        rfl
    | none =>
      obtain ⟨answers, given', counted, same⟩ :=
        ih { g with seeds := seeds₁, discarded := g.discarded + 1 } w₁
      refine ⟨answer :: answers, .next given given', ?_, ?_⟩
      · rw [List.filter_cons_of_pos (by simp [settled]), List.length_cons, ← Nat.add_assoc,
          Nat.add_right_comm]
        exact counted
      · rw [List.filterMap_cons_none settled]
        exact same

end

/-! ### The rest of a round -/

variable [Randomness σ]

/-- The rest of a round once its seed is found: orders and targets are drawn, and the campaign is
made from them. -/
def proceed (g : Generator τ) (seed : Configuration) (w : σ) :
    Except CampaignError Campaign × Generator τ × σ :=
  match g.orders.draw Random.below g.plan.ordersPerRound w with
  | (.error .empty, w) => (.error .exhausted, g, w)
  | (.error .overflow, w) => (.error .overflow, g, w)
  | (.ok orders, w) =>
    match g.targets.draw Random.below g.plan.targetsPerRound w with
    | (.error .empty, w) => (.error .noTargets, g, w)
    | (.error .overflow, w) => (.error .overflow, g, w)
    | (.ok targets, w) => g.commit ⟨seed, orders, targets⟩ w

/-- **The rest of a round cannot fail** if there are orders, all of which can be exercised, and
targets, and if there can be room for as many of them as are to be drawn. -/
theorem proceed_ok (distinct : g.orders.items.Nodup) (live : g.orders.items ≠ [])
    (aimed : g.targets.isEmpty = false) (runs : ∀ o ∈ g.orders.items, Exercisable g.space o)
    (fits : ¬ g.plan.Exceeds) (seed : Configuration) (w : σ) :
    ∃ campaign w', campaign.seed = seed ∧ g.proceed seed w = (.ok campaign,
      { g with swept := true, round := g.round + 1, selected := campaign.orders }, w') := by
  obtain ⟨fitOrders, fitTargets⟩ := not_or.mp fits
  have some : g.orders.isEmpty = false :=
    Bool.eq_false_iff.mpr fun empty => live (g.isExhausted_iff.mp empty)
  obtain ⟨orders, w₁, hOrders⟩ := Pool.draw_defined some (Nat.not_lt.mp fitOrders) Random.below w
  obtain ⟨picked, w₂, hTargets⟩ := Pool.draw_defined aimed (Nat.not_lt.mp fitTargets) Random.below w₁
  have members := (Pool.draw_eq_ok distinct hOrders).2.1
  obtain ⟨configurations, w₃, made⟩ :=
    (Mutation.allMutants_defined_iff g.space seed orders [seed] w₂).mpr
      fun o ho => runs o (members o ho)
  rw [proceed, hOrders]
  dsimp only
  rw [hTargets]
  dsimp only
  rw [commit, made]
  exact ⟨_, w₃, rfl, rfl⟩

/-- If there cannot be room for as many orders or targets as are to be drawn, the rest of a round
breaks off at the first of these draws. -/
theorem proceed_overflow (live : g.orders.items ≠ []) (aimed : g.targets.isEmpty = false)
    (exceeds : g.plan.Exceeds) (seed : Configuration) (w : σ) :
    ∃ w', g.proceed seed w = (.error .overflow, g, w') := by
  have some : g.orders.isEmpty = false :=
    Bool.eq_false_iff.mpr fun empty => live (g.isExhausted_iff.mp empty)
  rw [proceed]
  rcases Nat.lt_or_ge Pool.room g.plan.ordersPerRound with beyond | fits
  · rw [Pool.draw_beyond some beyond]
    exact ⟨w, rfl⟩
  · obtain ⟨orders, w₁, hOrders⟩ := Pool.draw_defined some fits Random.below w
    have beyond : Pool.room < g.plan.targetsPerRound :=
      exceeds.resolve_left (Nat.not_lt.mpr fits)
    rw [hOrders]
    dsimp only
    rw [Pool.draw_beyond aimed beyond]
    exact ⟨w₁, rfl⟩

variable [SeedSource τ σ]

theorem generate_of_seed (swept : g.swept = true) (live : g.orders.items ≠ [])
    (found : g.nextSeed patience w = (.ok seed, g', w')) :
    g.generate patience w = g'.proceed seed w' := by
  have some : ¬ g.isExhausted = true := fun empty => live (g.isExhausted_iff.mp empty)
  rw [generate, if_neg some, if_pos swept, select, found, proceed]
  dsimp only
  rcases g'.orders.draw Random.below g'.plan.ordersPerRound w' with ⟨⟨_ | _⟩ | orders, w₁⟩
  · rfl
  · rfl
  dsimp only
  rcases g'.targets.draw Random.below g'.plan.targetsPerRound w₁ with ⟨⟨_ | _⟩ | picked, w₂⟩
  · rfl
  · rfl
  · rfl

theorem generate_of_no_seed {e : CampaignError} (swept : g.swept = true)
    (live : g.orders.items ≠ []) (failed : g.nextSeed patience w = (.error e, g', w')) :
    g.generate patience w = (.error e, g', w') := by
  have some : ¬ g.isExhausted = true := fun empty => live (g.isExhausted_iff.mp empty)
  rw [generate, if_neg some, if_pos swept, select, failed]

/-- **After the sweep every order that is left can be exercised,** for the sweep has done so. -/
theorem Reachable.exercisable (h : g.Reachable σ s plan targets) (swept : g.swept = true) :
    ∀ o ∈ g.orders.items, Exercisable s o := by
  induction h with
  | make made =>
    unfold Generator.make at made
    split at made
    · cases made
    · obtain rfl := Except.ok.inj made
      cases swept
  | feedback confirmed vs reached ih =>
    intro o ho
    simp only [Generator.feedback, Pool.items_reweight] at ho
    exact ih swept o ((items_foldl_retire _ _ _).subset ho)
  | @generate g patience w reached ih =>
    have lawful := reached.lawful
    rw [(advances_generate patience g w).orders]
    cases before : g.swept with
    | true => exact ih before
    | false =>
      cases out : (g.generate patience w).1 with
      | ok campaign =>
        have sweep : FullSweep σ targets g campaign := fullSweep_of_generate lawful before out
        obtain ⟨configurations, w₁, w₂, made, -⟩ := sweep.jobs
        rw [lawful.space, sweep.orders] at made
        exact (Mutation.allMutants_defined_iff s campaign.seed g.orders.items _ w₁).mp
          ⟨configurations, w₂, made⟩
      | error e =>
        -- a failed call leaves the sweep due
        have due := unswept_call before (.generate patience w) (by rw [Call.event, out]; rfl)
        exact absurd (swept.symm.trans due) Bool.noConfusion

/-- With any seed, a round after the sweep yields a campaign as long as there are orders and there can
be room for what is drawn. -/
theorem Reachable.proceeds (reachable : g.Reachable σ s plan targets) (swept : g.swept = true)
    (live : g.orders.items ≠ []) (fits : ¬ plan.Exceeds) (seeds : τ) (discarded : Nat)
    (seed : Configuration) (w : σ) :
    let found : Generator τ := { g with seeds, discarded }
    ∃ campaign w', campaign.seed = seed ∧ found.proceed seed w = (.ok campaign,
      { found with swept := true, round := g.round + 1, selected := campaign.orders }, w') :=
  proceed_ok (g := { g with seeds, discarded }) reachable.lawful.distinct live reachable.has_targets
    (reachable.lawful.space ▸ reachable.exercisable swept) (reachable.lawful.plan ▸ fits) seed w

/-- **Only the first acceptable seed is used.** Let a source, after the sweep and while there are
orders, first give texts that describe no configuration, and then another answer. If this is a text
that describes one, the rest of the round is made from this configuration: there is a campaign, and
it starts from it, unless more is to be drawn than there can be room for, where the program breaks
off with the generator as it is then. If the answer is a failure, this failure is reported. Either
way the texts before it are counted as discarded, each once, the source has been asked for these
texts and the answer and for nothing else, and what is left of the round asks it no more. -/
theorem first_seed_is_used (reachable : g.Reachable σ s plan targets) (swept : g.swept = true)
    (live : g.orders.items ≠ []) {rejected : List String}
    (unusable : ∀ text ∈ rejected, ∀ seed, Configuration.parse s text ≠ .ok seed)
    (patient : rejected.length < patience) :
    (∀ text seed seeds w',
      ask (rejected.length + 1) g.seeds w = (rejected.map .ok ++ [.ok text], seeds, w') →
      Configuration.parse s text = .ok seed →
        let found : Generator τ := { g with seeds, discarded := g.discarded + rejected.length }
        g.generate patience w = found.proceed seed w' ∧
        (plan.ordersPerRound ≤ Pool.room ∧ plan.targetsPerRound ≤ Pool.room →
          ∃ campaign w'', campaign.seed = seed ∧ found.proceed seed w' = (.ok campaign,
            { found with swept := true, round := g.round + 1, selected := campaign.orders }, w'')) ∧
        (Pool.room < plan.ordersPerRound ∨ Pool.room < plan.targetsPerRound →
          ∃ w'', found.proceed seed w' = (.error .overflow, found, w''))) ∧
    ∀ failure seeds w',
      ask (rejected.length + 1) g.seeds w = (rejected.map .ok ++ [.error failure], seeds, w') →
        g.generate patience w = (.error (.seedSource failure),
          { g with seeds, discarded := g.discarded + rejected.length }, w') := by
  have space := reachable.lawful.space
  have skipped : ∀ answer ∈ rejected.map .ok, settle g.space answer = none := by
    intro answer ha
    obtain ⟨text, ht, rfl⟩ := List.mem_map.mp ha
    exact settle_eq_none (space ▸ unusable text ht)
  have length : (rejected.map .ok : List (Except SeedFailure String)).length = rejected.length :=
    List.length_map _
  rw [← length] at patient ⊢
  refine ⟨fun text seed seeds w' asked parsed => ?_, fun failure seeds w' asked => ?_⟩
  · have found := nextSeed_of_settle asked skipped (settle_of_parse (space ▸ parsed)) patient
    refine ⟨generate_of_seed swept live found, fun ⟨fitOrders, fitTargets⟩ => ?_, fun exceeds => ?_⟩
    · have fits : ¬ plan.Exceeds := not_or.mpr ⟨Nat.not_lt.mpr fitOrders, Nat.not_lt.mpr fitTargets⟩
      exact reachable.proceeds swept live fits seeds _ seed w'
    · exact proceed_overflow (g := { g with seeds, discarded := _ }) live reachable.has_targets
        (reachable.lawful.plan ▸ exceeds) seed w'
  · exact generate_of_no_seed swept live (nextSeed_of_settle asked skipped rfl patient)

open Comparison (stairsSpace)

/-- A generator for the three levels after the sweep, with some seeds to come. -/
def stairsAsking (texts : List String) : Generator ListedSeeds :=
  (({ stairsStart with seeds := ⟨texts⟩ } : Generator ListedSeeds).generate 1
    (Replay.ofList [])).2.1

theorem reachable_stairsAsking (texts : List String) :
    (stairsAsking texts).Reachable Replay stairsSpace ⟨1, 1⟩ [⟨"p"⟩] := by
  have made : make stairsSpace ⟨1, 1⟩ (⟨texts⟩ : ListedSeeds) [⟨"p"⟩] =
      .ok { stairsStart with seeds := ⟨texts⟩ } := by
    rw [make, declaredOrders_stairsSpace]
    rfl
  exact .generate 1 _ (.make made)

theorem first_seed_is_used_stairs :
    (∃ campaign g' w', (stairsAsking ["--step B", "--k B", "--k C"]).generate 2 (Replay.ofList []) =
      (.ok campaign, g', w') ∧ Configuration.parse stairsSpace "--k B" = .ok campaign.seed ∧
      g'.discarded = 1 ∧ g'.seeds = ⟨["--k C"]⟩) ∧
    ∃ g' w', (stairsAsking ["--step B", "--k"]).generate 9 (Replay.ofList []) =
      (.error (.seedSource ⟨"no more seeds", none⟩), g', w') ∧ g'.discarded = 2 := by
  have unusable : ∀ text ∈ ["--step B", "--k"], ∀ seed,
      Configuration.parse stairsSpace text ≠ .ok seed := by
    intro text ht seed parsed
    have fails : ∀ text ∈ ["--step B", "--k"],
        (Configuration.parse stairsSpace text).isOk = false := by decide +kernel
    exact absurd (fails text ht) (by simp [parsed, Except.isOk, Except.toBool])
  constructor
  · have reached := reachable_stairsAsking ["--step B", "--k B", "--k C"]
    obtain ⟨accepted, -⟩ := first_seed_is_used (w := Replay.ofList []) reached (by decide +kernel)
      (by decide +kernel)
      (fun text ht => unusable text (List.mem_cons.mpr (.inl (List.mem_singleton.mp ht))))
      (show ["--step B"].length < 2 by decide)
    have seeds : (stairsAsking ["--step B", "--k B", "--k C"]).seeds =
        ⟨["--step B", "--k B", "--k C"]⟩ := by decide +kernel
    rw [seeds] at accepted
    obtain ⟨made, follows, -⟩ := accepted "--k B"
      ⟨Table.empty.insert "k" ⟨"k", "B"⟩, none⟩ ⟨["--k C"]⟩ (Replay.ofList []) rfl
      (by decide +kernel)
    obtain ⟨campaign, w'', seed, proceeds⟩ := follows (by decide)
    exact ⟨campaign, _, w'', made.trans proceeds, by rw [seed]; decide +kernel, rfl, rfl⟩
  · have reached := reachable_stairsAsking ["--step B", "--k"]
    obtain ⟨-, failed⟩ := first_seed_is_used (w := Replay.ofList []) reached (by decide +kernel)
      (by decide +kernel) unusable (show ["--step B", "--k"].length < 9 by decide)
    have seeds : (stairsAsking ["--step B", "--k"]).seeds = ⟨["--step B", "--k"]⟩ := by
      decide +kernel
    rw [seeds] at failed
    exact ⟨_, _, failed ⟨"no more seeds", none⟩ ⟨[]⟩ (Replay.ofList []) rfl, rfl⟩

/-! ### Runs -/

/-- What the calls for a campaign answer, in the order of the calls. -/
def replies (g : Generator τ) : List (Call σ) → List (Except CampaignError Campaign)
  | [] => []
  | .generate patience w :: cs =>
    (g.generate patience w).1 :: (g.generate patience w).2.1.replies cs
  | .feedback confirmed vs :: cs => (g.feedback confirmed vs).1.replies cs

/-- What a reply says that an answer of the source settled. -/
def settledIn (reply : Except CampaignError Campaign) :
    Option (Except SeedFailure Configuration) :=
  settledBy (reply.map (·.seed))

/-- **What a call for a campaign consumes** after the sweep, if there can be room for what is
drawn. -/
theorem generate_settles (reachable : g.Reachable σ s plan targets) (swept : g.swept = true)
    (fits : ¬ plan.Exceeds) (patience : Nat) (w : σ) :
    ∃ answers, Gives σ g.seeds answers (g.generate patience w).2.1.seeds ∧
      (g.generate patience w).2.1.discarded =
        g.discarded + (answers.filter fun a => (settle s a).isNone).length ∧
      answers.filterMap (settle s) = (settledIn (g.generate patience w).1).toList := by
  by_cases live : g.orders.items = []
  · rw [generate_of_exhausted live]
    exact ⟨[], .nothing _, rfl, rfl⟩
  obtain ⟨answers, given, counted, same⟩ := g.nextSeed_settles patience w
  obtain ⟨seeds, discarded, frame⟩ := g.nextSeed_frame patience w
  rw [reachable.lawful.space] at counted same
  refine ⟨answers, ?_⟩
  cases search : g.nextSeed patience w with
  | mk result rest =>
    rw [search] at given counted same frame
    obtain ⟨g', w'⟩ := rest
    cases result with
    | error e =>
      rw [generate_of_no_seed swept live search]
      exact ⟨given, counted, same⟩
    | ok seed =>
      obtain rfl : g' = { g with seeds, discarded } := frame
      obtain ⟨campaign, w'', rfl, made⟩ :=
        reachable.proceeds swept live fits seeds discarded seed w'
      rw [generate_of_seed swept live search, made]
      exact ⟨given, counted, same⟩

/-- **What a run consumes** after the sweep, if there can be room for what is drawn: the source gives
answers in a row, of which the ones that are discarded are counted, and the others are the seeds of
the campaigns and the failures that were reported, in this order. -/
theorem run_settles (reachable : g.Reachable σ s plan targets) (swept : g.swept = true)
    (fits : ¬ plan.Exceeds) (past : List Event) (cs : List (Call σ)) :
    ∃ answers, Gives σ g.seeds answers (g.run past cs).2.seeds ∧
      (g.run past cs).2.discarded =
        g.discarded + (answers.filter fun a => (settle s a).isNone).length ∧
      answers.filterMap (settle s) = (g.replies cs).filterMap settledIn := by
  induction cs generalizing g past with
  | nil => exact ⟨[], .nothing _, rfl, rfl⟩
  | cons c cs ih =>
    cases c with
    | feedback confirmed vs => exact ih (reachable.feedback confirmed vs) swept _
    | generate patience w =>
      have still : (g.generate patience w).2.1.swept = true := by
        rcases (advances_generate patience g w).rounds with ⟨same, -⟩ | ⟨later, -⟩
        · exact same.trans swept
        · exact later
      obtain ⟨first, given, counted, same⟩ := generate_settles reachable swept fits patience w
      obtain ⟨later, given', counted', same'⟩ :=
        ih (reachable.generate patience w) still (Call.event (.generate patience w) g :: past)
      refine ⟨first ++ later, given.append given', ?_, ?_⟩
      · rw [List.filter_append, List.length_append, ← Nat.add_assoc, ← counted]
        exact counted'
      · rw [List.filterMap_append, same, same', replies, List.filterMap_cons]
        cases settledIn (g.generate patience w).1 with
        | none => rfl
        | some outcome => rfl

end Generator
end OrderTrials
