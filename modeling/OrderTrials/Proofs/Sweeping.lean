import OrderTrials.Proofs.Checking
import OrderTrials.Proofs.Generating
/-
# What the sweep compares

The first campaign runs both levels of every declared order between two names, but it does not
compare them from both sides. A job of the default configuration investigates nothing, and such a
job is taken as the second of a pair alone. So an order is compared from its left level to its right
one if the left level is not the default, and never if it is (`Generator.sweep_declared`).

Key definitions: `Sweep`.
Key theorems: `Sweep.check_defined`, `Sweep.firstLevel_ne`, `Sweep.reported`,
`Generator.sweep_declared`, `Generator.sweep_passes_over`.
-/

namespace OrderTrials

open Comparison Mutation

/-- A mutant for a declared order has levels that are known, if its seed has. -/
theorem Mutation.IsMutant.known {s : Space} {text : String} {seed c : Configuration} {o : Order}
    (accepted : Space.ofText text = .ok s) (declared : o ∈ s.declaredOrders)
    (known : s.Known seed.assignment) (h : IsMutant s seed o c) : s.Known c.assignment := by
  have fits := Space.fits_of_declared accepted declared
  obtain ⟨d, l, hd, hl, ⟨side, hside, stands⟩, -, rfl⟩ := h.exists_level fits
  have knows : d.Knows l := by
    obtain ⟨d', orders, hd', -, shows, ho⟩ := Space.dimension_of_declared accepted declared
    obtain rfl : d = d' := Option.some.inj (hd.symm.trans hd')
    unfold Stands at stands
    split at stands
    · obtain ⟨v, taken, rfl⟩ := stands
      exact (Space.wellFormed_of_text accepted hd).knows_integer taken
    · obtain rfl := stands
      rcases hside with rfl | rfl
      · exact (shows.knows_sides ho).1
      · exact (shows.knows_sides ho).2
  intro k d' l' hd' hl'
  change (seed.mutated l).get? k = some l' at hl'
  rw [get?_mutated] at hl'
  split at hl'
  · rename_i hk
    obtain rfl := Option.some.inj hl'
    obtain rfl : d = d' := Option.some.inj (hd.symm.trans (hl ▸ hk ▸ hd'))
    exact knows
  · exact known k d' l' hd' hl'

/-! ### The configurations of the sweep -/

/-- The configurations of the first campaign: the default one and mutants of it that cover all
declared orders. -/
structure Sweep (s : Space) (seed : Configuration) (others : List Configuration) : Prop where
  default : Configuration.default s = .ok seed
  mutants : ∀ c ∈ others, ∃ o ∈ s.declaredOrders, IsMutant s seed o c
  covers : ∀ o ∈ s.declaredOrders, Covers s seed o (· ∈ seed :: others)

namespace Sweep

variable {s : Space} {text option : String} {seed c : Configuration} {others : List Configuration}
  {d : Dimension} {o : Order} {side : Level} {jobs : List FinishedJob} {vs : List Violation}

theorem total_known (h : Sweep s seed others) (accepted : Space.ofText text = .ok s)
    (hc : c ∈ seed :: others) : s.Total c.assignment ∧ s.Known c.assignment := by
  have total := Configuration.total_default (Space.wellNamed_of_text accepted) h.default
  have known := Configuration.known_default accepted h.default
  rcases List.mem_cons.mp hc with rfl | hc
  · exact ⟨total, known⟩
  · obtain ⟨o, ho, mutant⟩ := h.mutants c hc
    exact ⟨mutant.total (Space.fits_of_declared accepted ho) total,
      mutant.known accepted ho known⟩

/-- A configuration that investigates an option is a mutant, and has another level of the option
than the default. -/
theorem moved (h : Sweep s seed others) (accepted : Space.ofText text = .ok s)
    (hc : c ∈ seed :: others) (investigated : c.investigated = some option) :
    (s.dimension? option).isSome = true ∧ seed.DifferOnlyAt c option := by
  rcases List.mem_cons.mp hc with rfl | hc
  · rw [Configuration.investigated_complete h.default] at investigated
    cases investigated
  · obtain ⟨o, ho, mutant⟩ := h.mutants c hc
    have fits := Space.fits_of_declared accepted ho
    obtain ⟨hi, differ⟩ := mutant.differOnlyAt fits
    obtain rfl : o.option = option := Option.some.inj (hi.symm.trans investigated)
    obtain ⟨d, hd, -⟩ := fits.dimension
    exact ⟨by rw [hd]; rfl, differ⟩

/-- **Each side of a declared order between names is held** by the default configuration or by a
mutant that investigates the option; by the latter, if the side is not the default. -/
theorem holds (h : Sweep s seed others) (accepted : Space.ofText text = .ok s)
    (hd : s.dimension? option = some d) (names : d.isInteger = false)
    (ho : o ∈ d.declaredOrders) (hside : side = o.left ∨ side = o.right) :
    ∃ c ∈ seed :: others, c.get? option = some side ∧
      (∀ other, other ≠ option → c.get? other = seed.get? other) ∧
      (c.investigated = none ∨ c.investigated = some option) ∧
      (seed.get? option ≠ some side → c.investigated = some option) := by
  have declared := (s.mem_declaredOrders o).mpr ⟨option, d, hd, ho⟩
  obtain ⟨-, -, e, -, -, shows, hname, -⟩ := s.exists_entry accepted hd
  obtain rfl : o.option = option := (shows.mem_declaredOrders.mp ho).2.1.trans hname
  obtain ⟨d', l, c, hc, hd', stands, held, made⟩ := (h.covers o declared).exists_level
    (Space.fits_of_declared accepted declared) List.mem_cons_self hside
  obtain rfl : d = d' := Option.some.inj (hd.symm.trans hd')
  obtain rfl := stands.eq_of_names (Space.wellFormed_of_text accepted hd) names
  refine ⟨c, hc, held, ?_⟩
  rcases made with rfl | ⟨rfl, own⟩
  · exact ⟨fun _ _ => rfl, .inl (Configuration.investigated_complete h.default),
      fun new => absurd held new⟩
  · refine ⟨fun other hother => ?_, .inr (congrArg some own), fun _ => congrArg some own⟩
    rw [get?_mutated, if_neg (own ▸ hother)]

/-- **The finished jobs of the sweep can be checked.** -/
theorem check_defined (h : Sweep s seed others) (accepted : Space.ofText text = .ok s)
    (own : ∀ f ∈ jobs, f.configuration ∈ seed :: others) : ∃ vs, check s jobs = .ok vs := by
  exact check_of_known (fun f hf => (h.total_known accepted (own f hf)).2)
    fun f hf option hi => (h.moved accepted (own f hf) hi).1

/-- **A pair is never read from the default.** The first job of a reported pair investigates the
option of the pair, and so has another level of it than the default. -/
theorem firstLevel_ne (h : Sweep s seed others) (accepted : Space.ofText text = .ok s)
    (own : ∀ f ∈ jobs, f.configuration ∈ seed :: others) (checked : check s jobs = .ok vs)
    {v : Violation} (hv : v ∈ vs) : v.firstLevel? ≠ seed.get? v.option := by
  obtain ⟨⟨first, second⟩, hpair, hcompare⟩ := (mem_check_iff checked v).mp hv
  obtain ⟨⟨hfirst, -⟩, -, partner⟩ := mem_pairs hpair
  obtain ⟨option, d, a, b, r, hc, -, -, -, -, rfl⟩ :=
    (compare_eq_some_iff s first second v).mp hcompare
  have investigated : first.investigated = some option := by
    have hi := hc.investigated
    rcases ((isPartner_iff first second).mp partner).2 with none | same
    · rwa [none, Option.or_none] at hi
    · rwa [← same, Option.or_self] at hi
  have moved := (h.moved accepted (own first hfirst) investigated).2
  exact ((moved option).mpr rfl).symm

/-- **A declared order whose left level is not the default** is compared from left to right, unless
it is shadowed. -/
theorem reported (h : Sweep s seed others) (accepted : Space.ofText text = .ok s)
    (hd : s.dimension? option = some d) (names : d.isInteger = false)
    (ho : o ∈ d.declaredOrders) (ne : o.left ≠ o.right) (moved : seed.get? option ≠ some o.left)
    (unshadowed : ¬ d.Shadowed o.left o.right) {target : Target}
    (finished : ∀ c ∈ seed :: others, ∃ f ∈ jobs, f.job = ⟨c, target⟩ ∧ f.result.isSome = true)
    (checked : check s jobs = .ok vs) :
    ∃ v ∈ vs, v.target = target ∧ v.option = option ∧ v.firstLevel? = some o.left ∧
      v.secondLevel? = some o.right := by
  obtain ⟨-, -, e, -, -, shows, -, -⟩ := s.exists_entry accepted hd
  obtain ⟨stated, -⟩ := shows.mem_declaredOrders.mp ho
  obtain ⟨knowsLeft, knowsRight⟩ := shows.knows_sides ho
  obtain ⟨c, hc, left, elsewhere, -, investigated⟩ := h.holds accepted hd names ho (.inl rfl)
  -- the right level is the default or that of another mutant, which is a partner in both cases
  obtain ⟨c', hc', right, elsewhere', partner, -⟩ := h.holds accepted hd names ho (.inr rfl)
  obtain ⟨⟨_, elapsed, result⟩, hfirst, rfl, produced⟩ := finished c hc
  obtain ⟨⟨_, elapsed', result'⟩, hsecond, rfl, produced'⟩ := finished c' hc'
  have comparable : Comparable s ⟨⟨c, target⟩, elapsed, result⟩
      ⟨⟨c', target⟩, elapsed', result'⟩ option d o.left o.right :=
    comparable_of_agree (h.total_known accepted hc).1 (h.total_known accepted hc').1
      (investigated moved) hd left right ne
      fun other hother => (elsewhere other hother).trans (elsewhere' other hother).symm
  obtain ⟨r, reported⟩ :=
    compare_of_stated comparable knowsLeft knowsRight shows names stated unshadowed
  refine ⟨_, (mem_check_iff checked _).mpr ⟨(_, _), ?_, reported⟩, rfl, rfl, left, right⟩
  refine mem_pairs_of_partner ⟨hfirst, produced⟩ ⟨hsecond, produced'⟩ ?_
    ((isPartner_iff _ _).mpr ⟨rfl, partner.imp_right fun same => ?_⟩)
  · intro same
    obtain rfl : c = c' := congrArg FinishedJob.configuration same
    exact ne (Option.some.inj (left.symm.trans right))
  · exact (investigated moved).trans same.symm

end Sweep

/-! ### The first campaign -/

namespace Generator

variable {τ σ : Type} [Randomness σ] [SeedSource τ σ] {g : Generator τ} {s : Space} {text : String}
  {plan : Plan} {targets : List Target} {patience : Nat} {w : σ} {campaign : Campaign} {seeds : τ}

/-- **The first campaign** is the product of all targets with the configurations of the sweep. -/
theorem sweep_of_make (accepted : Space.ofText text = .ok s)
    (made : make s plan seeds targets = .ok g)
    (generated : (g.generate patience w).1 = .ok campaign) :
    ∃ others picked, Sweep s campaign.seed others ∧
      campaign.jobs = product (campaign.seed :: others) picked ∧
      ∀ t, t ∈ picked ↔ t ∈ targets := by
  have lawful := lawful_make made
  have start : g.swept = false ∧ ∀ o, o ∈ g.orders.items ↔ o ∈ s.declaredOrders := by
    unfold make at made
    split at made
    · cases made
    · obtain rfl := Except.ok.inj made
      exact ⟨rfl, Pool.mem_items_ofList _⟩
  obtain ⟨unswept, orders⟩ := start
  obtain ⟨chosen, others, selected, rfl, -, isMutant, covers⟩ :=
    generate_mutants accepted lawful generated
  obtain ⟨default, hall, htargets⟩ := selected.first unswept
  rw [lawful.space] at default
  have all (o : Order) : o ∈ chosen.orders ↔ o ∈ s.declaredOrders := by rw [hall, orders]
  simp only [all] at isMutant covers
  exact ⟨others, chosen.targets, ⟨default, isMutant, covers⟩, rfl, htargets ▸ lawful.given⟩

/-- **What the sweep compares.** Let each job of the first campaign finish with a result. Then the
finished jobs can be checked, and for each declared order between two names of an option: if the
left one is not the default and the order is not shadowed, a pair is reported on every target that
leads from a job with the left level to a job with the right one. If the left one is the default, no
pair on the option leads from it. -/
theorem sweep_declared {artifact : Artifact} (accepted : Space.ofText text = .ok s)
    (read : Artifact.read? text = some artifact) (made : make s plan seeds targets = .ok g)
    (generated : (g.generate patience w).1 = .ok campaign) {jobs : List FinishedJob}
    (finished : ∀ j ∈ campaign.jobs, ∃ f ∈ jobs, f.job = j ∧ f.result.isSome = true)
    (own : ∀ f ∈ jobs, f.job ∈ campaign.jobs) :
    ∃ vs, check s jobs = .ok vs ∧
      ∀ e ∈ artifact.options, e.isInteger = false → ∀ o ∈ e.declared, o.left ≠ o.right →
        ∃ d, s.dimension? e.name = some d ∧
          (d.defaultLevel ≠ .ok o.left → ¬ d.Shadowed o.left o.right →
            ∀ t ∈ targets, ∃ v ∈ vs, v.target = t ∧ v.option = e.name ∧
              v.firstLevel? = some o.left ∧ v.secondLevel? = some o.right) ∧
          (d.defaultLevel = .ok o.left →
            ∀ v ∈ vs, v.option = e.name → v.firstLevel? ≠ some o.left) := by
  obtain ⟨others, picked, sweep, hjobs, hpicked⟩ := sweep_of_make accepted made generated
  have mem (j : Job) : j ∈ campaign.jobs ↔
      j.target ∈ targets ∧ j.configuration ∈ campaign.seed :: others := by
    rw [hjobs, product, List.mem_flatMap]
    simp only [List.mem_map, hpicked]
    constructor
    · rintro ⟨t, ht, c, hc, rfl⟩
      exact ⟨ht, hc⟩
    · rintro ⟨ht, hc⟩
      exact ⟨_, ht, _, hc, rfl⟩
  have configurations (f : FinishedJob) (hf : f ∈ jobs) :
      f.configuration ∈ campaign.seed :: others := ((mem f.job).mp (own f hf)).2
  obtain ⟨vs, checked⟩ := sweep.check_defined accepted configurations
  refine ⟨vs, checked, fun e he names o ho ne => ?_⟩
  obtain ⟨d, hd, shows, hname, hint⟩ := s.dimension?_of_entry accepted read he
  obtain ⟨l, held, default⟩ :=
    Configuration.get?_default (Space.wellNamed_of_text accepted) sweep.default hd
  have declared : o ∈ d.declaredOrders := by
    obtain ⟨entry, -, rfl⟩ := List.mem_map.mp ho
    exact shows.mem_declaredOrders.mpr ⟨⟨_, ho, rfl, rfl, rfl⟩, hname.symm, hname.symm, hname.symm⟩
  refine ⟨d, hd, fun moved unshadowed t ht => ?_, fun isDefault v hv option => ?_⟩
  · refine sweep.reported accepted hd (hint.trans names) declared ne ?_ unshadowed
      (fun c hc => finished _ ((mem ⟨c, t⟩).mpr ⟨ht, hc⟩)) checked
    rw [held]
    rintro ⟨⟩
    exact moved default
  · have passed := sweep.firstLevel_ne accepted configurations checked hv
    rw [option, held] at passed
    rwa [← Except.ok.inj (default.symm.trans isDefault)]

/-- The first campaign on the three levels, of which the upper one is the default. -/
def stairsSweep : Campaign :=
  let seed : Configuration := ⟨Table.empty.insert "k" ⟨"k", "A"⟩, none⟩
  ⟨1, seed, stairs.declared,
    product [seed, (jobAt "B").configuration, (jobAt "C").configuration] [⟨"p"⟩]⟩

/-- Its jobs, finished. -/
def stairsFinished : List FinishedJob :=
  [⟨⟨stairsSweep.seed, ⟨"p"⟩⟩, 0, some "A"⟩, jobAt "B", jobAt "C"]

theorem generate_stairsStart :
    (stairsStart.generate 1 (Replay.ofList [])).1 = .ok stairsSweep := by decide +kernel

theorem check_stairsFinished :
    check stairsSpace stairsFinished = .ok [stairsPair "B" "C" false] := by decide +kernel

theorem sweep_declared_stairs :
    ∃ v ∈ [stairsPair "B" "C" false], v.firstLevel? = some ⟨"k", "B"⟩ ∧
      v.secondLevel? = some ⟨"k", "C"⟩ := by
  have finished : ∀ j ∈ stairsSweep.jobs, ∃ f ∈ stairsFinished,
      f.job = j ∧ f.result.isSome = true := by decide +kernel
  have own : ∀ f ∈ stairsFinished, f.job ∈ stairsSweep.jobs := by decide +kernel
  obtain ⟨vs, checked, compared⟩ := sweep_declared ofText_stairsText read_stairsText
    make_stairsStart generate_stairsStart finished own
  obtain rfl := Except.ok.inj (check_stairsFinished.symm.trans checked)
  obtain ⟨d, hd, reported, -⟩ := compared stairs List.mem_cons_self rfl
    (orderAt "B" .morePrecise "C" true false).toOrder (by decide) (by decide)
  obtain rfl := Option.some.inj (show some _ = some d from hd)
  obtain ⟨v, hv, -, -, first, second⟩ := reported (by decide +kernel)
    (fun shadowed => absurd shadowed.1 (by decide +kernel)) ⟨"p"⟩ List.mem_cons_self
  exact ⟨v, hv, first, second⟩

/-- **A declared order that the sweep passes over.** The upper level is declared to be more precise
than the middle one, and it is the default. All jobs of the first campaign finish, and no pair
leads from the one level to the other. -/
theorem sweep_passes_over :
    Space.ofText stairsText = .ok stairsSpace ∧
      Artifact.read? stairsText = some ⟨"t", [stairs]⟩ ∧ stairs.isInteger = false ∧
      make stairsSpace ⟨1, 1⟩ ⟨["--k B"]⟩ [⟨"p"⟩] = .ok stairsStart ∧
      (stairsStart.generate 1 (Replay.ofList [])).1 = .ok stairsSweep ∧
      stairsFinished.map (·.job) = stairsSweep.jobs ∧
      (∀ f ∈ stairsFinished, f.result.isSome = true) ∧
      (orderAt "A" .morePrecise "B" true false).toOrder ∈ stairs.declared ∧
      ∃ vs, check stairsSpace stairsFinished = .ok vs ∧
        ¬ ∃ v ∈ vs, v.firstLevel? = some ⟨"k", "A"⟩ ∧ v.secondLevel? = some ⟨"k", "B"⟩ :=
  ⟨ofText_stairsText, read_stairsText, rfl, make_stairsStart, generate_stairsStart,
    by decide +kernel, by decide +kernel, by decide, _, check_stairsFinished, by decide +kernel⟩

end Generator
end OrderTrials
