import OrderTrials.Campaign
import OrderTrials.Proofs.Drawing
import OrderTrials.Proofs.Mutating
import OrderTrials.Proofs.Reporting
import OrderTrials.Random.Replay
/-
# The shape of campaigns

Whatever has happened before, the pools of a generator hold distinct orders of the space and
distinct targets, and the sweep is due exactly until the first campaign (`Generator.Lawful`). Each
step keeps this, so it holds of every state that a generator reaches. From such a state a campaign
is the product of the selected targets with the seed and its mutants (`Generator.generate_ok`), and
no two of its jobs are alike (`Generator.shape_of_generate`). A call that gives no campaign leaves
the pools, the count of rounds and the selection as they were (`Generator.generate_outcome`).

Key definitions: `Plan.Exceeds`, `Generator.Lawful`, `Generator.Advances`, `Generator.Reachable`,
`Generator.Selection.Of`, `Generator.Outcome`, `Generator.product`.
Key theorems: `Generator.generate_outcome`, `Generator.advances_generate`,
`Generator.Reachable.lawful`, `Generator.generate_ok`, `Generator.generate_mutants`,
`Generator.shape_of_generate`.
-/

namespace OrderTrials

/-! ### Orders of a space -/

namespace Space

variable {s : Space} {text : String} {o : Order}

theorem mem_declaredOrders (s : Space) (o : Order) :
    o ∈ s.declaredOrders ↔ ∃ k d, s.dimension? k = some d ∧ o ∈ d.declaredOrders := by
  simp only [declaredOrders, List.mem_flatMap, mem_values_iff]
  constructor
  · rintro ⟨d, ⟨k, hk⟩, ho⟩
    exact ⟨k, d, hk, ho⟩
  · rintro ⟨k, d, hk, ho⟩
    exact ⟨d, ⟨k, hk⟩, ho⟩

/-- A declared order of a space that is read from a text is one of the dimension of its option. -/
theorem dimension_of_declared (accepted : ofText text = .ok s) (ho : o ∈ s.declaredOrders) :
    ∃ d orders, s.dimension? o.option = some d ∧ d.name = o.option ∧ d.Shows orders ∧
      o ∈ d.declaredOrders := by
  obtain ⟨k, d, hd, ho⟩ := (s.mem_declaredOrders o).mp ho
  obtain ⟨-, -, e, -, -, shows, hname, -⟩ := s.exists_entry accepted hd
  obtain rfl : o.option = k := (shows.mem_declaredOrders.mp ho).2.1.trans hname
  exact ⟨d, e.declared, hd, hname, shows, ho⟩

theorem fits_of_declared (accepted : ofText text = .ok s) (ho : o ∈ s.declaredOrders) :
    Mutation.Fits s o := by
  obtain ⟨d, orders, hd, hname, shows, ho⟩ := dimension_of_declared accepted ho
  obtain ⟨-, -, left, right⟩ := shows.mem_declaredOrders.mp ho
  exact ⟨⟨d, hd, hname⟩, left.trans hname, right.trans hname⟩

end Space

theorem Configuration.investigated_complete {s : Space} {given : Assignment} {c : Configuration}
    (h : complete s given = .ok c) : c.investigated = none := by
  unfold complete at h
  obtain ⟨full, -, h⟩ := (bind_eq_ok_iff _ _ _).mp h
  obtain rfl := Except.ok.inj h
  rfl

theorem Configuration.investigated_parse {s : Space} {text : String} {c : Configuration}
    (h : parse s text = .ok c) : c.investigated = none := by
  obtain ⟨given, -, hc⟩ := parse_ok h
  exact investigated_complete hc

/-- A round is to draw more orders or targets than there can be room for. -/
def Plan.Exceeds (plan : Plan) : Prop :=
  Pool.room < plan.ordersPerRound ∨ Pool.room < plan.targetsPerRound

namespace Generator

variable {τ σ : Type} {g : Generator τ} {s : Space} {plan : Plan} {targets : List Target}
  {patience : Nat} {w : σ} {chosen : Selection} {campaign : Campaign}

/-! ### Lawful states -/

/-- What holds of a generator for a space and targets between any two rounds: its pools hold
distinct declared orders and distinct targets, and the sweep is over once a round is counted. -/
structure Lawful (s : Space) (plan : Plan) (targets : List Target) (g : Generator τ) : Prop where
  space : g.space = s
  plan : g.plan = plan
  distinct : g.orders.items.Nodup
  declared : ∀ o ∈ g.orders.items, o ∈ s.declaredOrders
  distinctTargets : g.targets.items.Nodup
  given : ∀ t, t ∈ g.targets.items ↔ t ∈ targets
  swept : g.swept = true ↔ 0 < g.round

theorem lawful_make {seeds : τ} (h : make s plan seeds targets = .ok g) :
    g.Lawful s plan targets := by
  unfold make at h
  split at h
  · cases h
  · obtain rfl := Except.ok.inj h
    exact ⟨rfl, rfl, Pool.nodup_items_ofList _, fun o => (Pool.mem_items_ofList _ o).mp,
      Pool.nodup_items_ofList _, Pool.mem_items_ofList _, by simp⟩

/-- A step of the generator that leaves its pools alone, and ends the sweep if it counts a
round. -/
structure Advances (g g' : Generator τ) : Prop where
  space : g'.space = g.space
  plan : g'.plan = g.plan
  orders : g'.orders = g.orders
  targets : g'.targets = g.targets
  rounds : (g'.swept = g.swept ∧ g'.round = g.round) ∨
    (g'.swept = true ∧ g'.round = g.round + 1)

theorem Lawful.advance (h : g.Lawful s plan targets) {g' : Generator τ} (step : g.Advances g') :
    g'.Lawful s plan targets := by
  refine ⟨step.space.trans h.space, step.plan.trans h.plan, ?_, ?_, ?_, ?_, ?_⟩
  · exact step.orders ▸ h.distinct
  · exact step.orders ▸ h.declared
  · exact step.targets ▸ h.distinctTargets
  · exact step.targets ▸ h.given
  · rcases step.rounds with ⟨hs, hr⟩ | ⟨hs, hr⟩
    · rw [hs, hr, h.swept]
    · simp [hs, hr]

/-- Retiring orders, pair by pair, removes those that some pair retires. -/
theorem foldl_retire (space : Space) (vs : List Violation) (acc : Pool Order × Nat) :
    (vs.foldl (retire space) acc).1 =
      acc.1.removeWhere fun o => vs.any fun v => retires space v o := by
  induction vs generalizing acc with
  | nil => simp [Pool.removeWhere]
  | cons v vs ih =>
    rw [List.foldl_cons, ih, retire, Pool.removeWhere_removeWhere]
    rfl

/-- Retiring orders takes items from the pool and brings none in. -/
theorem items_foldl_retire (space : Space) (vs : List Violation) (acc : Pool Order × Nat) :
    (vs.foldl (retire space) acc).1.items.Sublist acc.1.items := by
  rw [foldl_retire, Pool.items_removeWhere]
  exact List.filter_sublist

theorem Lawful.feedback (h : g.Lawful s plan targets) (confirmed : Violation → Bool)
    (vs : List Violation) : (g.feedback confirmed vs).1.Lawful s plan targets := by
  have kept : (g.feedback confirmed vs).1.orders.items.Sublist g.orders.items := by
    simp only [Generator.feedback, Pool.items_reweight]
    exact items_foldl_retire _ _ _
  have targets_kept : (g.feedback confirmed vs).1.targets.items = g.targets.items := by
    simp only [Generator.feedback, Pool.items_reweight]
  exact ⟨h.space, h.plan, h.distinct.sublist kept, fun o ho => h.declared o (kept.subset ho),
    targets_kept ▸ h.distinctTargets, targets_kept ▸ h.given, h.swept⟩

section

variable [SeedSource τ σ]

/-- Looking for a seed changes the source and the count of discarded texts alone. -/
theorem nextSeed_frame (patience : Nat) (g : Generator τ) (w : σ) :
    ∃ seeds discarded, (g.nextSeed patience w).2.1 = { g with seeds, discarded } := by
  induction patience generalizing g w with
  | zero => exact ⟨g.seeds, g.discarded, rfl⟩
  | succ patience ih =>
    unfold nextSeed
    split
    · exact ⟨_, g.discarded, rfl⟩
    · split
      · exact ⟨_, g.discarded, rfl⟩
      · exact ih _ _

/-- No seed is to be had: the source fails, or it takes too long. -/
def Seedless : CampaignError → Prop
  | .seedSource _ | .impatient => True
  | _ => False

theorem seedless_of_nextSeed {e : CampaignError} (h : (g.nextSeed patience w).1 = .error e) :
    Seedless e := by
  induction patience generalizing g w with
  | zero =>
    obtain rfl := Except.error.inj h
    trivial
  | succ patience ih =>
    unfold nextSeed at h
    split at h
    · obtain rfl := Except.error.inj h
      trivial
    · split at h
      · cases h
      · exact ih h

theorem parse_of_nextSeed {seed : Configuration}
    (h : (g.nextSeed patience w).1 = .ok seed) :
    ∃ text, Configuration.parse g.space text = .ok seed := by
  induction patience generalizing g w with
  | zero => cases h
  | succ patience ih =>
    unfold nextSeed at h
    split at h
    · cases h
    · rename_i text seeds w₁ _
      split at h
      · rename_i seed' hseed
        obtain rfl := Except.ok.inj h
        exact ⟨text, hseed⟩
      · have parsed := ih h
        exact parsed

end

section

variable [Randomness σ]

theorem commit_frame (g : Generator τ) (chosen : Selection) (w : σ) :
    (g.commit chosen w).2.1 = g ∨ (g.commit chosen w).2.1 =
      { g with swept := true, round := g.round + 1, selected := chosen.orders } := by
  unfold commit
  split
  · exact .inl rfl
  · exact .inr rfl

variable [SeedSource τ σ]

/-- Drawing orders and targets leaves the generator as the search for a seed left it. -/
theorem select_state (patience : Nat) (g : Generator τ) (w : σ) :
    (g.select patience w).2.1 = (g.nextSeed patience w).2.1 := by
  unfold select
  rcases g.nextSeed patience w with ⟨e | seed, g', w'⟩
  · rfl
  dsimp only
  rcases g'.orders.draw Random.below g'.plan.ordersPerRound w' with ⟨⟨_ | _⟩ | orders, w₁⟩
  · rfl
  · rfl
  dsimp only
  rcases g'.targets.draw Random.below g'.plan.targetsPerRound w₁ with ⟨⟨_ | _⟩ | picked, w₂⟩
  · rfl
  · rfl
  · rfl

theorem select_frame (patience : Nat) (g : Generator τ) (w : σ) :
    ∃ seeds discarded, (g.select patience w).2.1 = { g with seeds, discarded } :=
  g.select_state patience w ▸ g.nextSeed_frame patience w

/-- Selecting fails without a seed, because there is nothing to select from, or because more is to be
drawn than there can be room for. -/
theorem select_error {e : CampaignError} (h : (g.select patience w).1 = .error e) :
    Seedless e ∨ e = .exhausted ∧ g.orders.isEmpty = true ∨
      e = .noTargets ∧ g.targets.isEmpty = true ∨ e = .overflow ∧ g.plan.Exceeds := by
  obtain ⟨seeds, discarded, frame⟩ := g.nextSeed_frame patience w
  have seedless {e : CampaignError} (h : (g.nextSeed patience w).1 = .error e) : Seedless e :=
    seedless_of_nextSeed h
  unfold select at h
  split at h
  · rename_i hseed
    rw [hseed] at seedless
    obtain rfl := Except.error.inj h
    exact .inl (seedless rfl)
  rename_i hseed
  rw [hseed] at frame
  obtain rfl := frame
  split at h
  · rename_i drawn
    obtain rfl := Except.error.inj h
    obtain ⟨-, empty⟩ | ⟨⟨⟩, -⟩ := Pool.draw_eq_error drawn
    exact .inr (.inl ⟨rfl, empty⟩)
  · rename_i drawn
    obtain rfl := Except.error.inj h
    obtain ⟨⟨⟩, -⟩ | ⟨-, beyond⟩ := Pool.draw_eq_error drawn
    exact .inr (.inr (.inr ⟨rfl, .inl beyond⟩))
  split at h
  · rename_i drawn
    obtain rfl := Except.error.inj h
    obtain ⟨-, empty⟩ | ⟨⟨⟩, -⟩ := Pool.draw_eq_error drawn
    exact .inr (.inr (.inl ⟨rfl, empty⟩))
  · rename_i drawn
    obtain rfl := Except.error.inj h
    obtain ⟨⟨⟩, -⟩ | ⟨-, beyond⟩ := Pool.draw_eq_error drawn
    exact .inr (.inr (.inr ⟨rfl, .inr beyond⟩))
  · cases h

/-- Why there is no campaign while there are orders. -/
inductive Failure (g : Generator τ) : CampaignError → Prop where
  | seedless {e : CampaignError} : Seedless e → Failure g e
  | space (fault : SpaceError) : Failure g (.space fault)
  | noTargets : g.targets.isEmpty = true → Failure g .noTargets
  | overflow : g.plan.Exceeds → Failure g .overflow

/-- What a call for a campaign leads to, in some state of the world around it. -/
inductive Outcome (g : Generator τ) (w : σ) :
    Except CampaignError Campaign × Generator τ × σ → Prop where
  | exhausted : g.isExhausted = true → Outcome g w (.error .exhausted, g, w)
  | failed {e : CampaignError} (seeds : τ) (discarded : Nat) (w' : σ) : g.isExhausted = false →
      Failure g e → Outcome g w (.error e, { g with seeds, discarded }, w')
  | campaign (c : Campaign) (seeds : τ) (discarded : Nat) (w' : σ) : g.isExhausted = false →
      c.round = g.round + 1 → Outcome g w (.ok c, { g with
        seeds, discarded, swept := true, round := g.round + 1, selected := c.orders }, w')

/-- **What generating leads to.** It ends with the orders, and then nothing changes. If it fails
otherwise, the source and the count of discarded texts are all that changes. With a campaign the
sweep is over, the round counts, and its orders are selected. -/
theorem generate_outcome (patience : Nat) (g : Generator τ) (w : σ) :
    g.Outcome w (g.generate patience w) := by
  cases exhausted : g.isExhausted with
  | true =>
    rw [generate, if_pos exhausted]
    exact .exhausted exhausted
  | false =>
    have commits (seeds : τ) (discarded : Nat) (chosen : Selection) (w' : σ) :
        g.Outcome w (({ g with seeds, discarded } : Generator τ).commit chosen w') := by
      unfold commit
      split
      · exact .failed seeds discarded _ exhausted (.space _)
      · exact .campaign _ seeds discarded _ exhausted rfl
    rw [generate, exhausted, if_neg Bool.false_ne_true]
    split
    · obtain ⟨seeds, discarded, frame⟩ := g.select_frame patience w
      have failure {e : CampaignError} (h : (g.select patience w).1 = .error e) :
          Failure g e := by
        rcases select_error h with seedless | ⟨-, empty⟩ | ⟨rfl, empty⟩ | ⟨rfl, exceeds⟩
        · exact .seedless seedless
        · exact absurd (empty.symm.trans exhausted) Bool.noConfusion
        · exact .noTargets empty
        · exact .overflow exceeds
      split
      · rename_i hselect
        rw [hselect] at frame failure
        obtain rfl := frame
        exact .failed seeds discarded _ exhausted (failure rfl)
      · rename_i hselect
        rw [hselect] at frame
        obtain rfl := frame
        exact commits seeds discarded _ _
    · split
      · rename_i hsweep
        unfold sweep at hsweep
        split at hsweep
        · obtain rfl := Except.error.inj hsweep
          exact .failed g.seeds g.discarded w exhausted (.space _)
        · cases hsweep
      · exact commits g.seeds g.discarded _ _

/-- **Generating leaves the pools alone,** whether it yields a campaign or not. -/
theorem advances_generate (patience : Nat) (g : Generator τ) (w : σ) :
    g.Advances (g.generate patience w).2.1 := by
  have outcome := g.generate_outcome patience w
  generalize g.generate patience w = out at outcome
  cases outcome with
  | exhausted _ => exact ⟨rfl, rfl, rfl, rfl, .inl ⟨rfl, rfl⟩⟩
  | failed _ _ _ _ _ => exact ⟨rfl, rfl, rfl, rfl, .inl ⟨rfl, rfl⟩⟩
  | campaign _ _ _ _ _ _ => exact ⟨rfl, rfl, rfl, rfl, .inr ⟨rfl, rfl⟩⟩

variable (σ) in
/-- The states that a generator for a space and targets reaches: it generates and takes feedback in
any order, whatever the state of the world around it is and whether a campaign comes of it. -/
inductive Reachable (s : Space) (plan : Plan) (targets : List Target) : Generator τ → Prop where
  | make {seeds : τ} {g : Generator τ} : make s plan seeds targets = .ok g →
      Reachable s plan targets g
  | generate {g : Generator τ} (patience : Nat) (w : σ) : Reachable s plan targets g →
      Reachable s plan targets (g.generate patience w).2.1
  | feedback {g : Generator τ} (confirmed : Violation → Bool) (vs : List Violation) :
      Reachable s plan targets g → Reachable s plan targets (g.feedback confirmed vs).1

/-- **Every state that is reached is lawful.** -/
theorem Reachable.lawful (h : g.Reachable σ s plan targets) : g.Lawful s plan targets := by
  induction h with
  | make h => exact lawful_make h
  | generate patience w _ ih => exact ih.advance (advances_generate patience _ w)
  | feedback confirmed vs _ ih => exact ih.feedback confirmed vs

end

/-! ### Selections and campaigns -/

/-- What is selected from a generator: everything from the default configuration as long as the
sweep is due, and later a part from a seed that was read. -/
structure Selection.Of (g : Generator τ) (chosen : Selection) : Prop where
  first : g.swept = false → Configuration.default g.space = .ok chosen.seed ∧
    chosen.orders = g.orders.items ∧ chosen.targets = g.targets.items
  later : g.swept = true → (∃ text, Configuration.parse g.space text = .ok chosen.seed) ∧
    chosen.orders.length ≤ g.plan.ordersPerRound
  orders : chosen.orders.Nodup ∧ ∀ o ∈ chosen.orders, o ∈ g.orders.items
  targets : chosen.targets.Nodup ∧ ∀ t ∈ chosen.targets, t ∈ g.targets.items

theorem sweep_ok (lawful : g.Lawful s plan targets) (unswept : g.swept = false)
    (h : g.sweep = .ok chosen) : Selection.Of g chosen := by
  unfold sweep at h
  split at h
  · cases h
  rename_i seed hseed
  obtain rfl := Except.ok.inj h
  exact ⟨fun _ => ⟨hseed, rfl, rfl⟩, fun swept => absurd swept (by simp [unswept]),
    ⟨lawful.distinct, fun _ => id⟩, lawful.distinctTargets, fun _ => id⟩

/-- The jobs of configurations on targets. -/
def product (configurations : List Configuration) (targets : List Target) : List Job :=
  targets.flatMap fun target => configurations.map fun c => ⟨c, target⟩

theorem mem_product {configurations : List Configuration} {targets : List Target} {j : Job} :
    j ∈ product configurations targets ↔ j.target ∈ targets ∧ j.configuration ∈ configurations := by
  simp only [product, List.mem_flatMap, List.mem_map]
  constructor
  · rintro ⟨t, ht, c, hc, rfl⟩
    exact ⟨ht, hc⟩
  · rintro ⟨ht, hc⟩
    exact ⟨_, ht, _, hc, rfl⟩

/-- The product of targets with configurations of different assignments has no two jobs that agree
on both. -/
theorem nodup_product {configurations : List Configuration} {targets : List Target}
    (different : (configurations.map (·.assignment)).Nodup) (distinct : targets.Nodup) :
    ((product configurations targets).map
      fun j => (j.configuration.assignment, j.target)).Nodup := by
  rw [product, List.map_flatMap, List.nodup_flatMap]
  constructor
  · intro target _
    have injective : Function.Injective fun a : Assignment => (a, target) :=
      fun _ _ h => (Prod.mk.inj h).1
    simpa only [List.map_map, Function.comp_def] using different.map injective
  · refine distinct.imp fun {t t'} ne x hx hx' => ne ?_
    simp only [List.map_map, List.mem_map, Function.comp_def] at hx hx'
    obtain ⟨_, -, rfl⟩ := hx
    obtain ⟨_, -, h⟩ := hx'
    exact (Prod.mk.inj h).2.symm

variable [Randomness σ]

theorem commit_ok (h : (g.commit chosen w).1 = .ok campaign) :
    ∃ configurations w', Mutation.allMutants g.space chosen.seed chosen.orders [chosen.seed] w =
        (.ok configurations, w') ∧
      campaign = ⟨g.round + 1, chosen.seed, chosen.orders,
        product configurations chosen.targets⟩ := by
  unfold commit at h
  split at h
  · cases h
  · rename_i configurations w' hc
    exact ⟨configurations, w', hc, (Except.ok.inj h).symm⟩

variable [SeedSource τ σ]

theorem select_ok (lawful : g.Lawful s plan targets) (swept : g.swept = true)
    (h : (g.select patience w).1 = .ok chosen) : Selection.Of g chosen := by
  obtain ⟨seeds, discarded, frame⟩ := g.nextSeed_frame patience w
  have parsed (seed : Configuration) (h : (g.nextSeed patience w).1 = .ok seed) :=
    parse_of_nextSeed h
  unfold select at h
  split at h
  · cases h
  rename_i seed g' w' hseed
  rw [hseed] at frame parsed
  obtain ⟨text, hparse⟩ := parsed seed rfl
  obtain rfl : g' = { g with seeds, discarded } := frame
  split at h
  · cases h
  · cases h
  rename_i orders _ horders
  split at h
  · cases h
  · cases h
  rename_i picked _ hpicked
  obtain rfl := Except.ok.inj h
  obtain ⟨distinct, members, short⟩ := Pool.draw_eq_ok lawful.distinct horders
  obtain ⟨distinctTargets, memberTargets, -⟩ := Pool.draw_eq_ok lawful.distinctTargets hpicked
  exact ⟨fun unswept => absurd unswept (by simp [swept]), fun _ => ⟨⟨text, hparse⟩, short⟩,
    ⟨distinct, members⟩, distinctTargets, memberTargets⟩

/-- **A campaign is made from a selection:** its jobs are the selected targets with the seed and
its mutants for the selected orders. -/
theorem generate_ok (lawful : g.Lawful s plan targets)
    (h : (g.generate patience w).1 = .ok campaign) :
    ∃ chosen configurations, ∃ w₁ w₂ : σ, Selection.Of g chosen ∧
      Mutation.allMutants g.space chosen.seed chosen.orders [chosen.seed] w₁ =
        (.ok configurations, w₂) ∧
      campaign = ⟨g.round + 1, chosen.seed, chosen.orders,
        product configurations chosen.targets⟩ := by
  unfold generate at h
  split at h
  · cases h
  split at h
  · rename_i swept
    obtain ⟨seeds, discarded, frame⟩ := g.select_frame patience w
    have selected (chosen : Selection) (h : (g.select patience w).1 = .ok chosen) :=
      select_ok lawful swept h
    split at h
    · cases h
    rename_i chosen g' w₁ hselect
    rw [hselect] at frame selected
    obtain rfl : g' = { g with seeds, discarded } := frame
    obtain ⟨configurations, w₂, mutants, rfl⟩ := commit_ok h
    exact ⟨chosen, configurations, w₁, w₂, selected chosen rfl, mutants, rfl⟩
  · rename_i unswept
    split at h
    · cases h
    rename_i chosen hsweep
    obtain ⟨configurations, w₂, mutants, rfl⟩ := commit_ok h
    exact ⟨chosen, configurations, w, w₂,
      sweep_ok lawful (Bool.eq_false_iff.mpr unswept) hsweep, mutants, rfl⟩

/-- The seed of a selection investigates nothing and is total. -/
theorem Selection.Of.start {text : String} (accepted : Space.ofText text = .ok s)
    (space : g.space = s) (h : Selection.Of g chosen) :
    chosen.seed.investigated = none ∧ s.Total chosen.seed.assignment := by
  have named := Space.wellNamed_of_text accepted
  cases swept : g.swept with
  | false =>
    have default := (h.first swept).1
    rw [space] at default
    exact ⟨Configuration.investigated_complete default,
      Configuration.total_default named default⟩
  | true =>
    obtain ⟨⟨text, parsed⟩, -⟩ := h.later swept
    rw [space] at parsed
    exact ⟨Configuration.investigated_parse parsed, Configuration.total_parse named parsed⟩

/-- **The configurations of a campaign** are its seed and mutants of it for the selected orders,
each once, and the sides of these orders are covered. -/
theorem generate_mutants {text : String} (accepted : Space.ofText text = .ok s)
    (lawful : g.Lawful s plan targets) (h : (g.generate patience w).1 = .ok campaign) :
    ∃ chosen others, Selection.Of g chosen ∧
      campaign = ⟨g.round + 1, chosen.seed, chosen.orders,
        product (chosen.seed :: others) chosen.targets⟩ ∧
      (chosen.seed :: others).Nodup ∧
      (∀ c ∈ others, ∃ o ∈ chosen.orders, Mutation.IsMutant s chosen.seed o c) ∧
      ∀ o ∈ chosen.orders, Mutation.Covers s chosen.seed o (· ∈ chosen.seed :: others) := by
  obtain ⟨chosen, configurations, w₁, w₂, selected, mutants, rfl⟩ := generate_ok lawful h
  rw [lawful.space] at mutants
  obtain ⟨p, grows, isMutant, covers⟩ := Mutation.allMutants_ok
    (fun _ _ _ hd => Space.wellFormed_of_text accepted hd) mutants
  obtain ⟨others, rfl⟩ := grows.keeps
  have nodup := grows.nodup (List.nodup_singleton chosen.seed)
  refine ⟨chosen, others, selected, rfl, nodup, fun c hc => ?_, fun o ho => ?_⟩
  · have other : c ≠ chosen.seed := fun e => (List.nodup_cons.mp nodup).1 (e ▸ hc)
    have grown := (grows.mem c).mp (List.mem_append_right _ hc)
    exact isMutant c (grown.resolve_left fun h => other (List.mem_singleton.mp h))
  · exact (covers o ho).mono fun c hc => (grows.mem c).mpr (.inr hc)

/-- **The shape of every campaign.** From any state that a generator reaches, a campaign has
distinct orders of the live pool, all of them in the first round and at most as many as planned in
a later one. Its jobs are the product of distinct targets of the pool with the seed, which
investigates nothing, and with other configurations. All of these are total; each of the others
investigates the option of a selected order and differs from the seed in that option alone. No two
of them have one assignment, so that no two jobs agree on assignment and target. Each side of a
selected order that is no placeholder is the level of one of them. -/
theorem shape_of_generate {text : String} (accepted : Space.ofText text = .ok s)
    (reachable : g.Reachable σ s plan targets)
    (generated : (g.generate patience w).1 = .ok campaign) :
    (campaign.orders.Nodup ∧ ∀ o ∈ campaign.orders, o ∈ g.orders.items) ∧
    (campaign.round = 1 → campaign.orders = g.orders.items) ∧
    (1 < campaign.round → campaign.orders.length ≤ plan.ordersPerRound) ∧
    ∃ picked others,
      campaign.jobs = product (campaign.seed :: others) picked ∧
      (picked.Nodup ∧ ∀ t ∈ picked, t ∈ g.targets.items) ∧
      campaign.seed.investigated = none ∧
      (∀ c ∈ campaign.seed :: others, s.Total c.assignment) ∧
      (∀ c ∈ others, ∃ o ∈ campaign.orders, c.investigated = some o.option ∧
        campaign.seed.DifferOnlyAt c o.option) ∧
      ((campaign.seed :: others).map (·.assignment)).Nodup ∧
      (campaign.jobs.map fun j => (j.configuration.assignment, j.target)).Nodup ∧
      ∀ o ∈ campaign.orders, ∀ side, side = o.left ∨ side = o.right →
        side.isPlaceholder = false →
          ∃ c ∈ campaign.seed :: others, c.get? o.option = some side := by
  have lawful := reachable.lawful
  obtain ⟨chosen, others, selected, rfl, nodup, isMutant, covers⟩ :=
    generate_mutants accepted lawful generated
  obtain ⟨start, total⟩ := selected.start accepted lawful.space
  have fits (o : Order) (ho : o ∈ chosen.orders) : Mutation.Fits s o :=
    Space.fits_of_declared accepted (lawful.declared o (selected.orders.2 o ho))
  have differ : ∀ c ∈ others, ∃ o ∈ chosen.orders, c.investigated = some o.option ∧
      chosen.seed.DifferOnlyAt c o.option := by
    intro c hc
    obtain ⟨o, ho, mutant⟩ := isMutant c hc
    exact ⟨o, ho, mutant.differOnlyAt (fits o ho)⟩
  have different : ((chosen.seed :: others).map (·.assignment)).Nodup := by
    refine Mutation.nodup_assignments nodup start fun c hc => ?_
    rcases List.mem_cons.mp hc with rfl | hc
    · exact .inl rfl
    · obtain ⟨o, -, h⟩ := differ c hc
      exact .inr ⟨o.option, h⟩
  refine ⟨selected.orders, fun first => ?_, fun later => ?_, chosen.targets, others, rfl,
    selected.targets, start, fun c hc => ?_, differ, different,
    nodup_product different selected.targets.1, fun o ho side hside named => ?_⟩
  · have unswept : g.swept = false := by
      rw [← Bool.not_eq_true, lawful.swept]
      dsimp only at first
      omega
    exact (selected.first unswept).2.1
  · have swept : g.swept = true := by
      rw [lawful.swept]
      dsimp only at later
      omega
    exact lawful.plan ▸ (selected.later swept).2
  · rcases List.mem_cons.mp hc with rfl | hc
    · exact total
    · obtain ⟨o, ho, mutant⟩ := isMutant c hc
      exact mutant.total (fits o ho) total
  · obtain ⟨d, l, c, hc, -, stands, held, -⟩ :=
      (covers o ho).exists_level (fits o ho) List.mem_cons_self hside
    exact ⟨c, hc, stands.eq_of_named named ▸ held⟩

/-! ### Two rounds on three levels -/

open Comparison

/-- Declared edges that are ascending are listed as they are. -/
theorem declaredPairs_of_ascending {g : Graph} {pairs : List (String × String)}
    (h : ((g.edges.filter (·.declared)).map fun e => (e.source, e.target)) = pairs)
    (ascending : pairs.Pairwise fun p q => Graph.pairLe p q = true) : g.declaredPairs = pairs := by
  rw [Graph.declaredPairs, h]
  exact List.mergeSort_of_pairwise ascending

/-- The declared orders of a space of one dimension. -/
theorem declaredOrders_spaceOf {d : Dimension} {sound precise : List (String × String)}
    (hs : (d.graph .moreSound).declaredPairs = sound)
    (hp : (d.graph .morePrecise).declaredPairs = precise) :
    (spaceOf d).declaredOrders =
      (sound.map fun p => ⟨⟨d.name, p.1⟩, .moreSound, ⟨d.name, p.2⟩, d.name⟩) ++
        precise.map fun p => ⟨⟨d.name, p.1⟩, .morePrecise, ⟨d.name, p.2⟩, d.name⟩ := by
  have alone : (spaceOf d).declaredOrders = d.declaredOrders ++ [] := rfl
  rw [alone, List.append_nil, Dimension.declaredOrders]
  simp only [List.flatMap_cons, List.flatMap_nil, hs, hp, List.append_nil]

theorem declaredOrders_stairsSpace : stairsSpace.declaredOrders = stairs.declared := by
  let d := (Dimension.enumeration "k").after stairs.calls
  have sound : (d.graph .moreSound).declaredPairs = [] :=
    declaredPairs_of_ascending (by decide +kernel) (by decide +kernel)
  have precise : (d.graph .morePrecise).declaredPairs = [("A", "B"), ("B", "C")] :=
    declaredPairs_of_ascending (by decide +kernel) (by decide +kernel)
  rw [stairsSpace, declaredOrders_spaceOf sound precise]
  rfl

/-- A generator for the three levels before its first round, with one seed to come. -/
def stairsStart : Generator ListedSeeds where
  space := stairsSpace
  plan := ⟨1, 1⟩
  seeds := ⟨["--k B"]⟩
  orders := .ofList stairs.declared
  targets := .ofList [⟨"p"⟩]
  swept := false
  round := 0
  selected := []
  discarded := 0

theorem make_stairsStart : make stairsSpace ⟨1, 1⟩ ⟨["--k B"]⟩ [⟨"p"⟩] = .ok stairsStart := by
  rw [make, declaredOrders_stairsSpace]
  rfl

/-- The generator after the sweep, from which nothing was learned. -/
def stairsNext : Generator ListedSeeds :=
  ((stairsStart.generate 1 (Replay.ofList [])).2.1.feedback (fun _ => true) []).1

/-- The second campaign: the middle level, and a mutant of it at the upper one. -/
def stairsCampaign : Campaign :=
  let seed : Configuration := ⟨Table.empty.insert "k" ⟨"k", "B"⟩, none⟩
  ⟨2, seed, [(orderAt "A" .morePrecise "B" true false).toOrder],
    product [seed, (jobAt "A").configuration] [⟨"p"⟩]⟩

theorem shape_of_generate_stairsNext :
    stairsNext.Reachable Replay stairsSpace ⟨1, 1⟩ [⟨"p"⟩] ∧
      (stairsNext.generate 1 (Replay.ofList [])).1 = .ok stairsCampaign ∧
      stairsCampaign.orders.length ≤ 1 ∧
      (stairsCampaign.jobs.map fun j => (j.configuration.assignment, j.target)).Nodup := by
  have reached : stairsNext.Reachable Replay stairsSpace ⟨1, 1⟩ [⟨"p"⟩] :=
    .feedback _ _ (.generate 1 _ (.make make_stairsStart))
  have generated : (stairsNext.generate 1 (Replay.ofList [])).1 = .ok stairsCampaign := by
    decide +kernel
  obtain ⟨-, -, later, _, _, -, -, -, -, -, -, distinct, -⟩ :=
    shape_of_generate ofText_stairsText reached generated
  exact ⟨reached, generated, later (by decide), distinct⟩

end Generator
end OrderTrials
