import OrderTrials.Proofs.Ranging
/-
# Campaigns that can be checked

A check fails on an option that the space does not have and on a level that its dimension does not
know. The jobs of a campaign bring in neither. Whichever way a level gets into a job, its dimension
knows it: a default is registered, a value of a text names a registered level or an integer of the
range, and a side of an order is a node or is replaced by an integer of the range
(`Space.knows_of_offers`). So the jobs of a campaign, finished with results or without, can be
checked (`Generator.check_of_generate`).

Key theorems: `Space.knows_of_offers`, `Generator.mutant_of_generate`,
`Generator.check_of_generate`.
-/

namespace OrderTrials

/-- An integer of the range is known, however it is spelled. -/
theorem Dimension.WellFormed.knows_inRange {d : Dimension} {l : Level} (h : d.WellFormed)
    (own : l.option = d.name) (inRange : d.InRange l) : d.Knows l := by
  obtain ⟨v, hv, least, greatest, hl, hg, -⟩ := inRange
  obtain ⟨integer, -⟩ := h.bounds least greatest hl hg
  refine ⟨own, .inr (.inl ?_)⟩
  rw [integerValue?, if_pos integer, hv]
  rfl

/-- **What is offered is known.** -/
theorem Space.knows_of_offers {s : Space} {text name : String} {d : Dimension} {l : Level}
    (accepted : ofText text = .ok s) (hd : s.dimension? name = some d) (h : d.Offers l) :
    d.Knows l := by
  have wellFormed := wellFormed_of_text accepted hd
  obtain ⟨-, -, e, -, -, built⟩ := exists_build accepted hd
  cases h with
  | default default => exact wellFormed.knows_default default
  | read name value read =>
    obtain ⟨level, -⟩ := Dimension.level_of_levelOf read
    obtain ⟨own, known⟩ := Dimension.level_ok wellFormed (OptionEntry.bounds_of_build built) level
    rcases known with registered | inRange
    · exact ⟨own, .inr (.inr registered)⟩
    · exact wellFormed.knows_inRange own inRange
  | @side o side ho hside stands =>
    unfold Mutation.Stands at stands
    split at stands
    · obtain ⟨v, taken, rfl⟩ := stands
      exact wellFormed.knows_integer taken
    · obtain ⟨left, right⟩ := (OptionEntry.shows_of_build built).1.knows_sides ho
      rcases hside with rfl | rfl
      · exact stands ▸ left
      · exact stands ▸ right

namespace Generator

variable {τ σ : Type} [Randomness σ] [SeedSource τ σ] {g : Generator τ} {s : Space}
  {text option : String} {plan : Plan} {targets : List Target} {patience : Nat} {w : σ}
  {campaign : Campaign} {j : Job}

/-- **The configuration of a job** is total, and either it investigates nothing or it is a mutant
for a declared order. -/
theorem mutant_of_generate (accepted : Space.ofText text = .ok s)
    (reachable : g.Reachable σ s plan targets)
    (generated : (g.generate patience w).1 = .ok campaign) (hj : j ∈ campaign.jobs) :
    s.Total j.configuration.assignment ∧ (j.configuration.investigated = none ∨
      ∃ o ∈ s.declaredOrders, Mutation.IsMutant s campaign.seed o j.configuration) := by
  have lawful := reachable.lawful
  obtain ⟨chosen, others, selected, rfl, -, isMutant, -⟩ :=
    generate_mutants accepted lawful generated
  obtain ⟨start, total⟩ := selected.start accepted lawful.space
  rcases List.mem_cons.mp (mem_product.mp hj).2 with same | hc
  · rw [same]
    exact ⟨total, .inl start⟩
  · obtain ⟨o, ho, mutant⟩ := isMutant _ hc
    have declared := lawful.declared o (selected.orders.2 o ho)
    exact ⟨mutant.total (Space.fits_of_declared accepted declared) total,
      .inr ⟨o, declared, mutant⟩⟩

/-- A job investigates an option of the space, or none. -/
theorem dimension_of_investigated (accepted : Space.ofText text = .ok s)
    (reachable : g.Reachable σ s plan targets)
    (generated : (g.generate patience w).1 = .ok campaign) (hj : j ∈ campaign.jobs)
    (investigated : j.configuration.investigated = some option) :
    ∃ d, s.dimension? option = some d := by
  rcases (mutant_of_generate accepted reachable generated hj).2 with none | ⟨o, declared, mutant⟩
  · rw [none] at investigated
    cases investigated
  · have fits := Space.fits_of_declared accepted declared
    obtain rfl : o.option = option :=
      Option.some.inj ((mutant.differOnlyAt fits).1.symm.trans investigated)
    obtain ⟨d, hd, -⟩ := fits.dimension
    exact ⟨d, hd⟩

/-- The levels of a job are known. -/
theorem known_of_generate (accepted : Space.ofText text = .ok s)
    (reachable : g.Reachable σ s plan targets)
    (generated : (g.generate patience w).1 = .ok campaign) (hj : j ∈ campaign.jobs) :
    s.Known j.configuration.assignment := by
  intro option d l hd hl
  obtain ⟨l', hl', offered⟩ := offers_of_generate accepted reachable generated hj hd
  obtain rfl : l' = l := Option.some.inj (hl'.symm.trans hl)
  exact Space.knows_of_offers accepted hd offered

/-- **A check of a campaign gives an answer.** From every state that a generator reaches, whatever
the seeds, the random words and the feedback have been, and whichever jobs of the campaign finish
and with what results, the finished jobs can be checked. The option that a job investigates is one
of the space. Each level of a job is one of an option of the space, and it has a place beside the
level that any job of the campaign has of this option. -/
theorem check_of_generate (accepted : Space.ofText text = .ok s)
    (reachable : g.Reachable σ s plan targets)
    (generated : (g.generate patience w).1 = .ok campaign) :
    (∀ finished : List FinishedJob, (∀ f ∈ finished, f.job ∈ campaign.jobs) →
      ∃ vs, Comparison.check s finished = .ok vs) ∧
    ∀ j ∈ campaign.jobs,
      (∀ option, j.configuration.investigated = some option → ∃ d, s.dimension option = .ok d) ∧
      ∀ option l, j.configuration.get? option = some l →
        ∃ d, s.dimension option = .ok d ∧ ∀ j' ∈ campaign.jobs,
          ∃ l' p, j'.configuration.get? option = some l' ∧ d.anchors l l' = .ok p := by
  have known {j : Job} (hj : j ∈ campaign.jobs) :=
    known_of_generate accepted reachable generated hj
  have own {j : Job} (hj : j ∈ campaign.jobs) {option : String}
      (hi : j.configuration.investigated = some option) :=
    dimension_of_investigated accepted reachable generated hj hi
  have total {j : Job} (hj : j ∈ campaign.jobs) :=
    (mutant_of_generate accepted reachable generated hj).1
  refine ⟨fun finished jobs => ?_, fun j hj => ⟨fun option hi => ?_, fun option l hl => ?_⟩⟩
  · refine Comparison.check_of_known (fun f hf => known (jobs f hf)) fun f hf option hi => ?_
    obtain ⟨d, hd⟩ := own (jobs f hf) hi
    rw [hd]
    rfl
  · obtain ⟨d, hd⟩ := own hj hi
    exact ⟨d, (s.dimension_eq_ok_iff option d).mpr hd⟩
  · have there : (s.dimension? option).isSome = true := by
      rw [← total hj option]
      exact Option.isSome_iff_exists.mpr ⟨l, hl⟩
    obtain ⟨d, hd⟩ := Option.isSome_iff_exists.mp there
    refine ⟨d, (s.dimension_eq_ok_iff option d).mpr hd, fun j' hj' => ?_⟩
    obtain ⟨l', hl'⟩ : ∃ l', j'.configuration.get? option = some l' :=
      Option.isSome_iff_exists.mp ((total hj' option).trans there)
    exact ⟨l', _, hl', (d.anchors_eq_ok_iff l l' _).mpr
      ⟨known hj option d l hd hl, known hj' option d l' hd hl', rfl⟩⟩

/-! ### A default, a node and a number that is drawn -/

/-- The first campaign for the integers up to nine: the default, the integer of the declared order,
and the one that is drawn for its placeholder. -/
def digitsCampaign : Campaign :=
  let seed : Configuration := ⟨Table.empty.insert "n" ⟨"n", "5"⟩, none⟩
  ⟨1, seed, Space.digits.declared,
    product [seed, seed.mutated ⟨"n", "7"⟩, drawnJob.configuration] [⟨"p"⟩]⟩

/-- The jobs of the campaign, of which the last one has failed. -/
def digitsFinished : List FinishedJob :=
  List.zipWith (⟨·, 0, ·⟩) digitsCampaign.jobs [some "a", some "b", none]

theorem check_of_generate_digits :
    (digitsStart.generate 1 (Replay.ofList [])).1 = .ok digitsCampaign ∧
      (digitsFinished.map (·.job)) = digitsCampaign.jobs ∧
      (∃ vs, Comparison.check Space.digitsSpace digitsFinished = .ok vs) ∧
      ∃ p, Space.digitsDimension.anchors ⟨"n", "0"⟩ ⟨"n", "7"⟩ = .ok p := by
  have generated : (digitsStart.generate 1 (Replay.ofList [])).1 = .ok digitsCampaign := by
    decide +kernel
  have finished : digitsFinished.map (·.job) = digitsCampaign.jobs := by decide +kernel
  obtain ⟨checked, placed⟩ :=
    check_of_generate Space.ofText_digitsText (.make make_digitsStart) generated
  refine ⟨generated, finished, checked digitsFinished fun f hf => ?_, ?_⟩
  · rw [← finished]
    exact List.mem_map_of_mem hf
  · have drawn : drawnJob ∈ digitsCampaign.jobs := by decide +kernel
    have node : (⟨digitsCampaign.seed.mutated ⟨"n", "7"⟩, ⟨"p"⟩⟩ : Job) ∈ digitsCampaign.jobs := by
      decide +kernel
    obtain ⟨d, hd, beside⟩ := (placed drawnJob drawn).2 "n" ⟨"n", "0"⟩ (by decide +kernel)
    obtain rfl : d = Space.digitsDimension := Option.some.inj
      (((Space.digitsSpace.dimension_eq_ok_iff "n" d).mp hd).symm.trans Space.dimension?_digitsSpace)
    obtain ⟨l', p, hl', hp⟩ := beside _ node
    obtain rfl : (⟨"n", "7"⟩ : Level) = l' := Option.some.inj hl'
    exact ⟨p, hp⟩

end Generator
end OrderTrials
