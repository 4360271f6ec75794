import OrderTrials.Proofs.Resolving
/-
# Which levels are run

A level gets into a job as the default of its option, from the text of a seed, or for a side of a
declared order, a placeholder being replaced by an integer that is drawn
(`Generator.offers_of_generate`). What is drawn is in the range, and so is a number in a text,
unless it names a registered level; a text may not name a placeholder. What is registered is not
checked: a default may be a placeholder, and a side of an order may be any text. So an option of
integers runs at an integer of its range if its registered levels are such, and leaves the range
only through a registered level (`Generator.runs_of_generate`). It does so where the default is a
placeholder (`Generator.placeholder_runs`).

Key definitions: `Dimension.InRange`, `Dimension.Offers`, `Dimension.Runs`, `Dimension.Plain`.
Key theorems: `Dimension.level_ok`, `Space.runs_of_offers`, `Configuration.offers_of_parse`,
`Generator.offers_of_generate`, `Generator.runs_of_generate`, `Generator.placeholder_runs`.
-/

namespace OrderTrials

theorem Level.isPlaceholder_iff (l : Level) :
    l.isPlaceholder = true ↔ l.name = Anchor.integerNode ∨ l.name = Anchor.smallerNode := by
  unfold isPlaceholder Anchor.ofNode
  by_cases integer : l.name = Anchor.integerNode
  · simp [integer]
  · by_cases smaller : l.name = Anchor.smallerNode
    · simp [smaller, Anchor.integerNode, Anchor.smallerNode]
    · simp [integer, smaller]

namespace Dimension

variable {d : Dimension} {l : Level} {v : Int}

/-- The level spells an integer of the range. -/
def InRange (d : Dimension) (l : Level) : Prop :=
  ∃ v, l.value? = some v ∧ d.Takes v

/-- A placeholder spells no integer. -/
theorem InRange.not_placeholder (h : d.InRange l) : l.isPlaceholder = false := by
  obtain ⟨v, hv, -⟩ := h
  have unread : Text.readSigned Anchor.integerNode = none ∧
      Text.readSigned Anchor.smallerNode = none := by decide +kernel
  rw [Bool.eq_false_iff, Ne, l.isPlaceholder_iff]
  rw [Level.value?] at hv
  rintro (placeholder | placeholder)
  · rw [placeholder, unread.1] at hv
    cases hv
  · rw [placeholder, unread.2] at hv
    cases hv

theorem WellFormed.inRange_integer (h : d.WellFormed) (taken : d.Takes v) :
    d.InRange ⟨d.name, Text.showInteger v⟩ :=
  ⟨v, (h.readSigned_showInteger taken).2, taken⟩

/-- The ways in which a level gets into a run: as the default, from the text of a seed, or for a
side of a declared order. -/
inductive Offers (d : Dimension) (l : Level) : Prop where
  | default : d.defaultLevel = .ok l → d.Offers l
  | read (name value : String) : Configuration.levelOf d name value = .ok l → d.Offers l
  | side {o : Order} {side : Level} : o ∈ d.declaredOrders → side = o.left ∨ side = o.right →
      Mutation.Stands d side l → d.Offers l

/-- A level that can be run: an integer of the range, or a registered level that is no placeholder
unless it is the default. -/
def Runs (d : Dimension) (l : Level) : Prop :=
  d.InRange l ∨ l.name ∈ d.levels ∧ (l.isPlaceholder = true → d.default? = some l.name)

/-- Every registered level is a placeholder or an integer of the range, and the default is no
placeholder. -/
structure Plain (d : Dimension) : Prop where
  levels : ∀ name ∈ d.levels,
    Level.isPlaceholder ⟨d.name, name⟩ = true ∨ d.InRange ⟨d.name, name⟩
  default : ∀ l, d.defaultLevel = .ok l → l.isPlaceholder = false

/-- A level that a text names is registered, or it is an integer of the range. -/
theorem level_ok {raw : String} (wellFormed : d.WellFormed)
    (bounded : d.isInteger = true → ∃ least greatest, d.least = some least ∧
      d.greatest = some greatest) (h : d.level raw = .ok l) :
    l.option = d.name ∧ (l.name ∈ d.levels ∨ d.InRange l) := by
  obtain ⟨own, registered | ⟨integer, v, ⟨-, lower, upper⟩, shown⟩⟩ :=
    (d.exists_level_iff l).mp ⟨raw, h⟩
  · exact ⟨own, .inl registered⟩
  · obtain ⟨least, greatest, hl, hg⟩ := bounded integer
    rw [range, hl] at lower
    rw [range, hg] at upper
    obtain ⟨option, name⟩ := l
    obtain rfl : option = d.name := own
    obtain rfl : name = Text.showInteger v := shown
    exact ⟨rfl, .inr (wellFormed.inRange_integer ⟨least, greatest, hl, hg, lower, upper⟩)⟩

/-- A value of a text names a level, and on a dimension of integers no placeholder. -/
theorem level_of_levelOf {name value : String}
    (h : Configuration.levelOf d name value = .ok l) :
    d.level value = .ok l ∧ (d.isInteger = true → l.isPlaceholder = false) := by
  unfold Configuration.levelOf at h
  split at h
  · cases h
  · rename_i l' hl'
    split at h
    · cases h
    · rename_i named
      obtain rfl := Except.ok.inj h
      refine ⟨hl', fun integer => ?_⟩
      simpa [integer] using named

/-- Where the registered levels are plain, every level that can be run is an integer of the
range. -/
theorem Runs.inRange (h : d.Runs l) (own : l.option = d.name) (plain : d.Plain) : d.InRange l := by
  rcases h with inRange | ⟨registered, chosen⟩
  · exact inRange
  · have level : (⟨d.name, l.name⟩ : Level) = l := by rw [← own]
    refine level ▸ (plain.levels l.name registered).resolve_left fun placeholder => ?_
    rw [level] at placeholder
    have default := (d.defaultLevel_eq_ok_iff l).mpr ⟨own, chosen placeholder⟩
    exact absurd placeholder (by simp [plain.default l default])

end Dimension

/-! ### Levels that are offered -/

namespace Space

variable {s : Space} {text name : String} {d : Dimension} {l : Level} {o : Order}

/-- The sides of the declared orders are registered. -/
theorem sides_registered (accepted : ofText text = .ok s) (hd : s.dimension? name = some d)
    (ho : o ∈ d.declaredOrders) : o.left.name ∈ d.levels ∧ o.right.name ∈ d.levels := by
  obtain ⟨-, -, e, -, -, built⟩ := exists_build accepted hd
  obtain ⟨shows, hname, -⟩ := OptionEntry.shows_of_build built
  exact OptionEntry.sides_of_build built ((mem_declaredOrders_entry shows hname).mp ho)

/-- **What is offered to an option of integers can be run,** and belongs to the option. -/
theorem runs_of_offers (accepted : ofText text = .ok s) (hd : s.dimension? name = some d)
    (integer : d.isInteger = true) (h : d.Offers l) : l.option = d.name ∧ d.Runs l := by
  have wellFormed := wellFormed_of_text accepted hd
  cases h with
  | default default =>
    obtain ⟨own, registered⟩ := wellFormed.default_registered default
    exact ⟨own, .inr ⟨registered, fun _ => ((d.defaultLevel_eq_ok_iff l).mp default).2⟩⟩
  | read name value read =>
    obtain ⟨level, named⟩ := Dimension.level_of_levelOf read
    obtain ⟨-, -, e, -, -, built⟩ := exists_build accepted hd
    obtain ⟨own, known⟩ := Dimension.level_ok wellFormed (OptionEntry.bounds_of_build built) level
    refine ⟨own, ?_⟩
    rcases known with registered | inRange
    · refine .inr ⟨registered, fun placeholder => ?_⟩
      rw [named integer] at placeholder
      cases placeholder
    · exact .inl inRange
  | @side o side ho hside stands =>
    obtain ⟨-, -, leftOwn, rightOwn⟩ := (d.mem_declaredOrders o).mp ho
    obtain ⟨left, right⟩ := sides_registered accepted hd ho
    have own : side.option = d.name ∧ side.name ∈ d.levels := by
      rcases hside with rfl | rfl
      · exact ⟨leftOwn, left⟩
      · exact ⟨rightOwn, right⟩
    refine ⟨stands.option_eq own.1, ?_⟩
    unfold Mutation.Stands at stands
    split at stands
    · obtain ⟨v, taken, rfl⟩ := stands
      exact .inl (wellFormed.inRange_integer taken)
    · rename_i named
      exact .inr ⟨stands ▸ own.2, fun placeholder => absurd (stands ▸ placeholder) named⟩

end Space

namespace Configuration

variable {s : Space} {a : Assignment} {c : Configuration} {k text : String} {d : Dimension}
  {l : Level}

/-- Every level of an assignment was read from a value. -/
def Read (s : Space) (a : Assignment) : Prop :=
  ∀ k d l, s.dimension? k = some d → a.get? k = some l →
    ∃ name value, levelOf d name value = .ok l

theorem Read.assign (named : s.WellNamed) (h : Read s a) {name value : String} {a' : Assignment}
    (ha : Configuration.assign s a name value = .ok a') : Read s a' := by
  obtain ⟨d, l, hd, hl, rfl⟩ := assign_ok ha
  intro k d' l' hd' hl'
  by_cases hk : k = d.name
  · rw [hk, Table.get?_insert_self] at hl'
    obtain rfl := Option.some.inj hl'
    rw [hk, named name d hd, hd] at hd'
    obtain rfl := Option.some.inj hd'
    exact ⟨name, value, hl⟩
  · rw [Table.get?_insert_of_ne _ _ hk] at hl'
    exact h k d' l' hd' hl'

/-- **Each level of a configuration that is read from a text** is a default, or was read from a
value of the text. -/
theorem offers_of_parse (named : s.WellNamed) (h : parse s text = .ok c)
    (hd : s.dimension? k = some d) (hl : c.get? k = some l) : d.Offers l := by
  obtain ⟨given, hgiven, hc⟩ := parse_ok h
  have nothing : Read s .empty := by
    intro k d l _ hl
    simp [Table.empty, Table.get?] at hl
  have read : Read s given :=
    invariant_of_readWords (fun read entered => read.assign named entered) _ nothing hgiven
  rcases level_of_complete named hc hd hl with found | default
  · obtain ⟨name, value, read⟩ := read k d l hd found
    exact .read name value read
  · exact .default default

end Configuration

/-! ### Levels of jobs -/

namespace Generator

variable {τ σ : Type} [Randomness σ] [SeedSource τ σ] {g : Generator τ} {s : Space}
  {text option : String} {plan : Plan} {targets : List Target} {patience : Nat} {w : σ}
  {campaign : Campaign} {j : Job} {d : Dimension}

/-- **Every level of a job is offered.** It is a default, or read from the text of a seed, or it
stands for a side of a declared order. -/
theorem offers_of_generate (accepted : Space.ofText text = .ok s)
    (reachable : g.Reachable σ s plan targets)
    (generated : (g.generate patience w).1 = .ok campaign) (hj : j ∈ campaign.jobs)
    (hd : s.dimension? option = some d) :
    ∃ l, j.configuration.get? option = some l ∧ d.Offers l := by
  have lawful := reachable.lawful
  have named := Space.wellNamed_of_text accepted
  obtain ⟨chosen, others, selected, rfl, -, isMutant, -⟩ :=
    generate_mutants accepted lawful generated
  have seed : ∃ l, chosen.seed.get? option = some l ∧ d.Offers l := by
    cases swept : g.swept with
    | false =>
      have default := (selected.first swept).1
      rw [lawful.space] at default
      obtain ⟨l, hl, isDefault⟩ := Configuration.get?_default named default hd
      exact ⟨l, hl, .default isDefault⟩
    | true =>
      obtain ⟨⟨text, parsed⟩, -⟩ := selected.later swept
      rw [lawful.space] at parsed
      have total := Configuration.total_parse named parsed option
      rw [hd] at total
      obtain ⟨l, hl⟩ := Option.isSome_iff_exists.mp total
      exact ⟨l, hl, Configuration.offers_of_parse named parsed hd hl⟩
  rcases List.mem_cons.mp (mem_product.mp hj).2 with same | hc
  · rwa [same]
  · obtain ⟨o, ho, mutant⟩ := isMutant _ hc
    have declared := lawful.declared o (selected.orders.2 o ho)
    obtain ⟨d', l, hd', own, ⟨side, hside, stands⟩, -, made⟩ :=
      mutant.exists_level (Space.fits_of_declared accepted declared)
    by_cases here : option = o.option
    · obtain ⟨d'', -, hd'', -, -, ho⟩ := Space.dimension_of_declared accepted declared
      obtain rfl : d' = d'' := Option.some.inj (hd'.symm.trans hd'')
      obtain rfl : d = d' := Option.some.inj (hd.symm.trans (here ▸ hd'))
      refine ⟨l, ?_, .side ho hside stands⟩
      rw [made, Mutation.get?_mutated, if_pos (here.trans own.symm)]
    · obtain ⟨l', hl', offered⟩ := seed
      refine ⟨l', ?_, offered⟩
      rw [made, Mutation.get?_mutated, if_neg (fun same => here (same.trans own)), hl']

/-- **What options of integers run at.** In each campaign that is generated from a reachable state,
each job has a level of each option of integers. The level spells an integer of the range, or it is
a registered level that is no placeholder, unless it is the default. If every registered level is a
placeholder or an integer of the range, and the default is no placeholder, then the level is an
integer of the range and no placeholder. -/
theorem runs_of_generate (accepted : Space.ofText text = .ok s)
    (reachable : g.Reachable σ s plan targets)
    (generated : (g.generate patience w).1 = .ok campaign) (hj : j ∈ campaign.jobs)
    (hd : s.dimension? option = some d) (integer : d.isInteger = true) :
    ∃ l, j.configuration.get? option = some l ∧ d.Runs l ∧
      (d.Plain → d.InRange l ∧ l.isPlaceholder = false) := by
  obtain ⟨l, hl, offered⟩ := offers_of_generate accepted reachable generated hj hd
  obtain ⟨own, runs⟩ := Space.runs_of_offers accepted hd integer offered
  refine ⟨l, hl, runs, fun plain => ?_⟩
  have inRange := runs.inRange own plain
  exact ⟨inRange, inRange.not_placeholder⟩

/-! ### Two options of integers -/

open Comparison

/-- A generator before its first round, for a space with some declared orders and one target. -/
def startOf (s : Space) (orders : List Order) (texts : List String) : Generator ListedSeeds where
  space := s
  plan := ⟨1, 1⟩
  seeds := ⟨texts⟩
  orders := .ofList orders
  targets := .ofList [⟨"p"⟩]
  swept := false
  round := 0
  selected := []
  discarded := 0

theorem make_startOf {orders : List Order} (h : s.declaredOrders = orders) (texts : List String) :
    make s ⟨1, 1⟩ ⟨texts⟩ [⟨"p"⟩] = .ok (startOf s orders texts) := by
  rw [make, h]
  rfl

/-- A generator for the integers up to nine. -/
def digitsStart : Generator ListedSeeds := startOf Space.digitsSpace Space.digits.declared []

theorem make_digitsStart :
    make Space.digitsSpace ⟨1, 1⟩ ⟨[]⟩ [⟨"p"⟩] = .ok digitsStart := by
  refine make_startOf ?_ []
  have sound : (Space.digitsDimension.graph .moreSound).declaredPairs = [("7", "i")] :=
    declaredPairs_of_ascending (by decide +kernel) (by decide +kernel)
  have precise : (Space.digitsDimension.graph .morePrecise).declaredPairs = [] :=
    declaredPairs_of_ascending (by decide +kernel) (by decide +kernel)
  rw [Space.digitsSpace, declaredOrders_spaceOf sound precise]
  decide +kernel

/-- A job of the first campaign, at the integer that is drawn for the placeholder. -/
def drawnJob : Job := ⟨⟨Table.empty.insert "n" ⟨"n", "0"⟩, some "n"⟩, ⟨"p"⟩⟩

theorem runs_of_generate_digits :
    ∃ campaign, (digitsStart.generate 1 (Replay.ofList [])).1 = .ok campaign ∧
      drawnJob ∈ campaign.jobs ∧ Space.digitsDimension.InRange ⟨"n", "0"⟩ := by
  let seed : Configuration := ⟨Table.empty.insert "n" ⟨"n", "5"⟩, none⟩
  let campaign : Campaign := ⟨1, seed, Space.digits.declared,
    product [seed, seed.mutated ⟨"n", "7"⟩, drawnJob.configuration] [⟨"p"⟩]⟩
  have generated : (digitsStart.generate 1 (Replay.ofList [])).1 = .ok campaign := by
    decide +kernel
  have mem : drawnJob ∈ campaign.jobs := by decide +kernel
  obtain ⟨l, hl, -, inRange⟩ := runs_of_generate Space.ofText_digitsText (.make make_digitsStart)
    generated mem Space.dimension?_digitsSpace (by decide +kernel)
  obtain rfl : (⟨"n", "0"⟩ : Level) = l := Option.some.inj hl
  refine ⟨campaign, generated, mem, (inRange ⟨?_, ?_⟩).1⟩
  · have levels : Space.digitsDimension.levels = ["7", "i", "5"] := by decide +kernel
    rw [levels]
    intro name hname
    simp only [List.mem_cons, List.not_mem_nil, or_false] at hname
    rcases hname with rfl | rfl | rfl
    · exact .inr ⟨7, by decide +kernel, 0, 9, by decide +kernel, by decide +kernel, by decide⟩
    · exact .inl rfl
    · exact .inr ⟨5, by decide +kernel, 0, 9, by decide +kernel, by decide +kernel, by decide⟩
  · intro l default
    have five : Space.digitsDimension.defaultLevel = .ok ⟨"n", "5"⟩ := by decide +kernel
    obtain rfl := Except.ok.inj (five.symm.trans default)
    rfl

/-- An option of one integer, with the shape of its range declared and a placeholder as default. -/
def vague : OptionEntry :=
  ⟨"k", true, [], some 3, some 3, some "i", [], [⟨.morePrecise, "i", "i-1"⟩]⟩

/-- The text of an artifact with that option. -/
def vagueText : String :=
  "\x7b\"name\":\"t\",\"options\":[\x7b\"name\":\"k\",\"type\":\"integer\"," ++
    "\"minValue\":3,\"maxValue\":3,\"default\":\"i\",\"orders\":[" ++
    "\x7b\"order\":\"MPT\",\"left\":\"i\",\"right\":\"i-1\"\x7d]\x7d]\x7d"

/-- The dimension of the option. -/
def vagueDimension : Dimension :=
  Dimension.after ⟨"k", true, some 3, some 3, [], none, [], .empty, .empty⟩ vague.calls

theorem ofText_vagueText : Space.ofText vagueText = .ok (spaceOf vagueDimension) :=
  (Space.ofText_eq_ok_iff _ _).mpr ⟨⟨"t", [vague]⟩, by decide +kernel, by decide +kernel⟩

theorem declaredOrders_vague : (spaceOf vagueDimension).declaredOrders = vague.declared := by
  have sound : (vagueDimension.graph .moreSound).declaredPairs = [] :=
    declaredPairs_of_ascending (by decide +kernel) (by decide +kernel)
  have precise : (vagueDimension.graph .morePrecise).declaredPairs = [("i", "i-1")] :=
    declaredPairs_of_ascending (by decide +kernel) (by decide +kernel)
  rw [declaredOrders_spaceOf sound precise]
  decide +kernel

/-- **A placeholder that is run.** An artifact makes a placeholder the default of an option of
integers. The first campaign has a job at the placeholder, which is no integer of the range. -/
theorem placeholder_runs :
    Space.ofText vagueText = .ok (spaceOf vagueDimension) ∧
      make (spaceOf vagueDimension) ⟨1, 1⟩ ⟨[]⟩ [⟨"p"⟩] =
        .ok (startOf (spaceOf vagueDimension) vague.declared []) ∧
      (spaceOf vagueDimension).dimension? "k" = some vagueDimension ∧
      vagueDimension.isInteger = true ∧
      ∃ campaign, ((startOf (spaceOf vagueDimension) vague.declared []).generate 1
          (Replay.ofList [])).1 = .ok campaign ∧
        ∃ j ∈ campaign.jobs, j.configuration.get? "k" = some ⟨"k", "i"⟩ ∧
          Level.isPlaceholder ⟨"k", "i"⟩ = true ∧ ¬ vagueDimension.InRange ⟨"k", "i"⟩ := by
  let seed : Configuration := ⟨Table.empty.insert "k" ⟨"k", "i"⟩, none⟩
  let campaign : Campaign := ⟨1, seed, vague.declared,
    product [seed, seed.mutated ⟨"k", "3"⟩] [⟨"p"⟩]⟩
  have generated : ((startOf (spaceOf vagueDimension) vague.declared []).generate 1
      (Replay.ofList [])).1 = .ok campaign := by decide +kernel
  have placeholder : Level.isPlaceholder ⟨"k", "i"⟩ = true := by decide
  refine ⟨ofText_vagueText, make_startOf declaredOrders_vague [], by decide +kernel,
    by decide +kernel, campaign, generated, ⟨seed, ⟨"p"⟩⟩, by decide +kernel, by decide +kernel,
    placeholder, fun inRange => ?_⟩
  exact absurd placeholder (by simp [inRange.not_placeholder])

end Generator
end OrderTrials
