import OrderTrials.Proofs.Rendering
import OrderTrials.Proofs.Weighing
/-
# Drawn seeds

The built-in source draws for each option whether it is set, and to what
(`RandomSeeds.outcomes`). Its text spells the levels that were drawn, one after the other, in the
way in which arguments are spelled (`RandomSeeds.drawWords_eq`). A drawn value is an integer of the
range or a registered level that is no placeholder (`Dimension.Draws`). Both are in normal form, so
that on its dimension a drawn value names itself (`Dimension.Draws.levelOf`). So the reader enters
just the drawn levels, and completing adds defaults alone (`RandomSeeds.parse_draw`). No text is
discarded, hence, in any run of a generator that has such seeds (`RandomSeeds.seeds_parsed`).

Key definitions: `Dimension.Draws`, `RandomSeeds.outcomes`, `RandomSeeds.drawn`.
Key theorems: `Dimension.draws_of_drawValue`, `Dimension.Draws.levelOf`, `RandomSeeds.drawWords_eq`,
`RandomSeeds.parse_draw`, `RandomSeeds.nextSeed_drawn`, `RandomSeeds.seeds_parsed`.
-/

namespace OrderTrials

/-! ### What is drawn -/

theorem Random.mem_of_element {σ α : Type} [Randomness σ] {l : List α} {a : α} {w w' : σ}
    (h : element l w = (some a, w')) : a ∈ l := by
  unfold element at h
  split at h
  · cases h
  · obtain ⟨found, -⟩ := Prod.mk.inj h
    exact List.mem_of_getElem? found

namespace Dimension

variable {d : Dimension} {v : String}

/-- The values that can be drawn on a dimension: the integers of its range, or its registered levels
without the placeholders. -/
def Draws (d : Dimension) (v : String) : Prop :=
  d.isInteger = true ∧ (∃ n, d.Takes n ∧ v = Text.showInteger n) ∨
    d.isInteger = false ∧ v ∈ d.levels ∧ Level.isPlaceholder ⟨d.name, v⟩ = false

theorem draws_of_drawValue (wellFormed : d.WellFormed) {σ : Type} [Randomness σ] {w w' : σ}
    (h : d.drawValue w = (some v, w')) : d.Draws v := by
  unfold drawValue at h
  split at h
  · rename_i integer
    obtain ⟨shown, -⟩ := Prod.mk.inj h
    obtain ⟨n, drawn, rfl⟩ := Option.map_eq_some_iff.mp shown
    have answer : d.drawInteger w = (some n, (d.drawInteger w).2) := Prod.ext drawn rfl
    exact .inl ⟨integer, n, wellFormed.drawInteger answer, rfl⟩
  · rename_i names
    have chosen := List.mem_filter.mp (Random.mem_of_element h)
    exact .inr ⟨Bool.eq_false_iff.mpr names, chosen.1, by simpa using chosen.2⟩

/-! ### What a drawn value names -/

/-- What is drawn is in normal form. -/
theorem Draws.normal (wellFormed : d.WellFormed) (h : d.Draws v) : d.Normal ⟨d.name, v⟩ := by
  rcases h with ⟨integer, n, taken, shown⟩ | ⟨-, registered, -⟩
  · exact ⟨rfl, .inr ⟨integer, n, wellFormed.covers taken, shown⟩⟩
  · exact ⟨rfl, .inl registered⟩

/-- **A drawn value names itself.** -/
theorem Draws.levelOf (wellFormed : d.WellFormed) (h : d.Draws v) (option : String) :
    Configuration.levelOf d option v = .ok ⟨d.name, v⟩ := by
  have named : d.level v = .ok ⟨d.name, v⟩ := (h.normal wellFormed).level_name
  unfold Configuration.levelOf
  rw [named]
  rcases h with ⟨-, n, taken, rfl⟩ | ⟨names, -, -⟩
  · have plain := (wellFormed.inRange_integer taken).not_placeholder
    simp [plain]
  · simp [names]

end Dimension

/-! ### Levels that are entered -/

namespace Configuration

variable {s : Space} {text : String} {ls : List Level} {k : String} {l : Level}

theorem get?_foldl_enter_of_absent (absent : ∀ l ∈ ls, l.option ≠ k) (a : Assignment) :
    (ls.foldl enter a).get? k = a.get? k := by
  induction ls generalizing a with
  | nil => rfl
  | cons l ls ih =>
    have other := absent l List.mem_cons_self
    rw [List.foldl_cons, ih fun l' hl' => absent l' (List.mem_cons_of_mem l hl'), enter,
      Table.get?_insert_of_ne _ _ other.symm]

/-- Levels of distinct options are all kept. -/
theorem get?_foldl_enter_of_mem (distinct : (ls.map (·.option)).Nodup) (hl : l ∈ ls)
    (a : Assignment) : (ls.foldl enter a).get? l.option = some l := by
  induction ls generalizing a with
  | nil => cases hl
  | cons first ls ih =>
    rw [List.map_cons, List.nodup_cons] at distinct
    obtain ⟨alone, distinct⟩ := distinct
    rw [List.foldl_cons]
    rcases List.mem_cons.mp hl with rfl | hl
    · have absent (l' : Level) (hl' : l' ∈ ls) : l'.option ≠ l.option := by
        intro same
        exact alone (List.mem_map.mpr ⟨l', hl', same⟩)
      rw [get?_foldl_enter_of_absent absent, enter, Table.get?_insert_self]
    · exact ih distinct hl _

theorem isWord_of_mem_argumentsOf (option : Text.IsWord ("--" ++ l.option))
    (name : Text.IsWord l.name) {w : String} (hw : w ∈ argumentsOf l) : Text.IsWord w := by
  rcases List.mem_cons.mp hw with rfl | hw
  · exact option
  · split at hw
    · cases hw
    · obtain rfl := List.mem_singleton.mp hw
      exact name

/-- **A row of levels of distinct options is read** to the configuration that has these levels, and
defaults for all other options. -/
theorem parse_of_entered (accepted : Space.ofText text = .ok s) (legible : s.Legible)
    (distinct : (ls.map (·.option)).Nodup)
    (named : ∀ l ∈ ls, ∃ d, s.dimension? l.option = some d ∧ levelOf d l.option l.name = .ok l) :
    ∃ c, parse s (" ".intercalate (ls.flatMap argumentsOf)) = .ok c ∧
      (∀ l ∈ ls, c.get? l.option = some l) ∧
      ∀ k d, s.dimension? k = some d → (∀ l ∈ ls, l.option ≠ k) →
        ∃ l, d.defaultLevel = .ok l ∧ c.get? k = some l := by
  have wellNamed := Space.wellNamed_of_text accepted
  have read (l : Level) (hl : l ∈ ls) : Text.IsWord l.name ∧ optionName? l.name = none := by
    obtain ⟨d, hd, hlevel⟩ := named l hl
    exact legible.level accepted hd (Dimension.level_of_levelOf hlevel).1
  have assigned : ∀ l ∈ ls, ∀ a, assign s a l.option l.name = .ok (enter a l) := by
    intro l hl a
    obtain ⟨d, hd, hlevel⟩ := named l hl
    exact assign_of_levelOf wellNamed hd hlevel a
  have words : ∀ w ∈ ls.flatMap argumentsOf, Text.IsWord w := by
    intro w hw
    obtain ⟨l, hl, hw⟩ := List.mem_flatMap.mp hw
    obtain ⟨d, hd, -⟩ := named l hl
    exact isWord_of_mem_argumentsOf (legible.isWord_option hd) (read l hl).1 hw
  have given := readWords_levels (s := s) (fun l hl => spells_argumentsOf (read l hl).2) assigned
    .empty
  obtain ⟨c, completed⟩ := complete_defined (fun k d hd => Space.exists_defaultLevel accepted hd)
    (ls.foldl enter .empty)
  have parsed : parse s (" ".intercalate (ls.flatMap argumentsOf)) = .ok c := by
    refine (bind_eq_ok_iff _ _ _).mpr ⟨_, (Text.words_unwords words).symm ▸ given, ?_⟩
    rw [completed]
    rfl
  refine ⟨c, parsed, fun l hl => ?_, fun k d hd absent => ?_⟩
  · exact kept_of_complete completed (get?_foldl_enter_of_mem distinct hl _)
  · have total := total_parse wellNamed parsed k
    rw [hd, Option.isSome_some, Option.isSome_iff_exists] at total
    obtain ⟨l, hl⟩ := total
    have left : (ls.foldl enter .empty).get? k = none := get?_foldl_enter_of_absent absent _
    have default := (level_of_complete wellNamed completed hd hl).resolve_left
      (by rw [left]; simp)
    exact ⟨l, default, hl⟩

end Configuration

/-! ### The drawn text -/

namespace RandomSeeds

variable {σ : Type} [Randomness σ] {chance : Double} {w : σ}

/-- What is drawn for some dimensions: for each of them, the value that it is set to, if it is
set. -/
def outcomes (chance : Double) : List Dimension → σ → List (Dimension × Option String) × σ
  | [], w => ([], w)
  | d :: ds, w =>
    let (set, w) := Random.coin chance w
    let (value, w) := if set then d.drawValue w else (none, w)
    let (rest, w) := outcomes chance ds w
    ((d, value) :: rest, w)

/-- The levels among what is drawn. -/
def drawn (outcomes : List (Dimension × Option String)) : List Level :=
  outcomes.filterMap fun x => x.2.map (⟨x.1.name, ·⟩)

/-- The words are the arguments for the levels that are drawn. -/
theorem drawWords_eq (chance : Double) (ds : List Dimension) (w : σ) :
    drawWords chance ds w =
      ((drawn (outcomes chance ds w).1).flatMap Configuration.argumentsOf,
        (outcomes chance ds w).2) := by
  induction ds generalizing w with
  | nil => rfl
  | cons d ds ih =>
    rw [drawWords, outcomes]
    dsimp only
    by_cases set : (Random.coin chance w).1 = true
    · rw [if_pos set, if_pos set, ih]
      cases (d.drawValue (Random.coin chance w).2).1 with
      | none => simp [drawn]
      | some v => simp [drawn, setting, Configuration.argumentsOf]
    · rw [if_neg set, if_neg set, ih]
      simp [drawn]

theorem dimensions_outcomes (chance : Double) (ds : List Dimension) (w : σ) :
    (outcomes chance ds w).1.map (·.1) = ds := by
  induction ds generalizing w with
  | nil => rfl
  | cons d ds ih =>
    rw [outcomes]
    dsimp only
    rw [List.map_cons, ih]

theorem draws_of_outcomes {ds : List Dimension} (wellFormed : ∀ d ∈ ds, d.WellFormed)
    {d : Dimension} {v : String} (h : (d, some v) ∈ (outcomes chance ds w).1) : d.Draws v := by
  induction ds generalizing w with
  | nil => cases h
  | cons d' ds ih =>
    rw [outcomes] at h
    dsimp only at h
    rcases List.mem_cons.mp h with first | later
    · obtain ⟨rfl, value⟩ := Prod.mk.inj first
      split at value
      · exact Dimension.draws_of_drawValue (wellFormed d List.mem_cons_self)
          (Prod.ext value.symm rfl)
      · cases value
    · exact ih (fun d hd => wellFormed d (List.mem_cons_of_mem _ hd)) later

theorem mem_drawn_iff {xs : List (Dimension × Option String)} {l : Level} :
    l ∈ drawn xs ↔ ∃ d v, (d, some v) ∈ xs ∧ l = ⟨d.name, v⟩ := by
  simp only [drawn, List.mem_filterMap, Option.map_eq_some_iff]
  constructor
  · rintro ⟨⟨d, value⟩, hx, v, rfl, rfl⟩
    exact ⟨d, v, hx, rfl⟩
  · rintro ⟨d, v, hx, rfl⟩
    exact ⟨(d, some v), hx, v, rfl, rfl⟩

/-- The options of the drawn levels are among those of the dimensions, in their order. -/
theorem options_drawn (xs : List (Dimension × Option String)) :
    ((drawn xs).map (·.option)).Sublist (xs.map (·.1.name)) := by
  induction xs with
  | nil => exact .slnil
  | cons x xs ih =>
    obtain ⟨d, value⟩ := x
    cases value with
    | none => exact ih.cons d.name
    | some v => exact ih.cons_cons d.name

/-- The text is the row of arguments for the levels that are drawn. -/
theorem text_draw (s : Space) (chance : Double) (w : σ) :
    ((RandomSeeds.mk s chance).draw w).1 = " ".intercalate
      ((drawn (outcomes chance s.dimensions.values w).1).flatMap Configuration.argumentsOf) := by
  rw [draw, drawWords_eq]

variable {s : Space} {text : String}

/-- **A drawn text is read to what was drawn.** The configuration has the drawn level of each option
that is set, and the default of each other one. -/
theorem parse_draw (accepted : Space.ofText text = .ok s) (legible : s.Legible) (chance : Double)
    (w : σ) :
    ∃ c, Configuration.parse s ((RandomSeeds.mk s chance).draw w).1 = .ok c ∧
      s.Total c.assignment ∧
      ∀ x ∈ (outcomes chance s.dimensions.values w).1,
        (∀ v, x.2 = some v → x.1.Draws v ∧ c.get? x.1.name = some ⟨x.1.name, v⟩) ∧
        (x.2 = none → ∃ l, x.1.defaultLevel = .ok l ∧ c.get? x.1.name = some l) := by
  have wellNamed := Space.wellNamed_of_text accepted
  have held (d : Dimension) (hd : d ∈ s.dimensions.values) : s.dimension? d.name = some d := by
    obtain ⟨k, hk⟩ := (s.mem_values_iff d).mp hd
    rwa [wellNamed k d hk]
  have wellFormed (d : Dimension) (hd : d ∈ s.dimensions.values) : d.WellFormed :=
    Space.wellFormed_of_text accepted (held d hd)
  let xs := (outcomes chance s.dimensions.values w).1
  have dimensions : xs.map (·.1) = s.dimensions.values := dimensions_outcomes chance _ w
  have among (x : Dimension × Option String) (hx : x ∈ xs) : x.1 ∈ s.dimensions.values :=
    dimensions ▸ List.mem_map_of_mem hx
  have names : (xs.map (·.1.name)).Nodup := by
    have keys : xs.map (·.1.name) = s.dimensions.keys := by
      calc
        xs.map (·.1.name) = (xs.map (·.1)).map (·.name) := by rw [List.map_map]; rfl
        _ = s.dimensions.values.map (·.name) := by rw [dimensions]
        _ = s.dimensions.keys := by
          rw [Table.values, Table.keys, List.map_map]
          refine List.map_congr_left fun e he => ?_
          exact wellNamed e.1 e.2 ((Table.get?_eq_some_iff _).mpr he)
    rw [keys]
    exact s.dimensions.nodup_keys
  have distinct := (options_drawn xs).nodup names
  have named : ∀ l ∈ drawn xs, ∃ d, s.dimension? l.option = some d ∧
      Configuration.levelOf d l.option l.name = .ok l := by
    intro l hl
    obtain ⟨d, v, hx, rfl⟩ := mem_drawn_iff.mp hl
    have hd := among _ hx
    have draws := draws_of_outcomes wellFormed hx
    exact ⟨d, held d hd, draws.levelOf (wellFormed d hd) d.name⟩
  obtain ⟨c, parsed, set, unset⟩ :=
    Configuration.parse_of_entered accepted legible distinct named
  have shown := text_draw s chance w
  refine ⟨c, shown ▸ parsed, Configuration.total_parse wellNamed parsed, fun x hx => ?_⟩
  obtain ⟨d, value⟩ := x
  have hd := among _ hx
  refine ⟨fun v hv => ?_, fun hv => ?_⟩
  · obtain rfl := hv
    exact ⟨draws_of_outcomes wellFormed hx, set _ (mem_drawn_iff.mpr ⟨d, v, hx, rfl⟩)⟩
  · obtain rfl := hv
    refine unset d.name d (held d hd) fun l hl same => ?_
    -- an option is drawn once
    obtain ⟨d', v, hx', rfl⟩ := mem_drawn_iff.mp hl
    have equal := List.inj_on_of_nodup_map names hx' hx same
    cases equal

/-! ### No text is discarded -/

variable {g : Generator RandomSeeds}

/-- A generator whose seeds are drawn for its own space. -/
structure Seeded (s : Space) (chance : Double) (discarded : Nat) (g : Generator RandomSeeds) :
    Prop where
  space : g.space = s
  seeds : g.seeds = ⟨s, chance⟩
  discarded : g.discarded = discarded

/-- **The first drawn text gives the seed,** and the generator stays as it is. -/
theorem nextSeed_drawn (accepted : Space.ofText text = .ok s) (legible : s.Legible)
    {chance : Double} {n : Nat} (seeded : Seeded s chance n g) (patience : Nat) (w : σ) :
    ∃ c, Configuration.parse s ((RandomSeeds.mk s chance).draw w).1 = .ok c ∧
      g.nextSeed (patience + 1) w = (.ok c, g, ((RandomSeeds.mk s chance).draw w).2) := by
  obtain ⟨c, parsed, -⟩ := parse_draw accepted legible chance w
  refine ⟨c, parsed, ?_⟩
  have next : SeedSource.next g.seeds w = (.ok ((RandomSeeds.mk s chance).draw w).1, g.seeds,
      ((RandomSeeds.mk s chance).draw w).2) := by
    rw [seeded.seeds]
    rfl
  have own : Configuration.parse g.space ((RandomSeeds.mk s chance).draw w).1 = .ok c := by
    rw [seeded.space, parsed]
  rw [Generator.nextSeed, next]
  dsimp only
  rw [own]

section

variable {chance : Double} {n : Nat}

/-- Whether a seed comes or not, the generator stays as it is. -/
theorem select_drawn (accepted : Space.ofText text = .ok s) (legible : s.Legible)
    (seeded : Seeded s chance n g) (patience : Nat) (w : σ) :
    (g.select patience w).2.1 = g := by
  rw [g.select_state patience w]
  cases patience with
  | zero => rfl
  | succ patience =>
    obtain ⟨c, -, drawn⟩ := nextSeed_drawn accepted legible seeded patience w
    rw [drawn]

theorem Seeded.commit (seeded : Seeded s chance n g) (chosen : Generator.Selection) (w : σ) :
    Seeded s chance n (g.commit chosen w).2.1 := by
  rcases g.commit_frame chosen w with frame | frame <;> rw [frame]
  · exact seeded
  · exact ⟨seeded.space, seeded.seeds, seeded.discarded⟩

/-- **Generating discards nothing.** -/
theorem Seeded.generate (accepted : Space.ofText text = .ok s) (legible : s.Legible)
    (seeded : Seeded s chance n g) (patience : Nat) (w : σ) :
    Seeded s chance n (g.generate patience w).2.1 := by
  unfold Generator.generate
  split
  · exact seeded
  split
  · have selected := select_drawn accepted legible seeded patience w
    split
    · rename_i h
      rw [h] at selected
      exact selected ▸ seeded
    · rename_i h
      rw [h] at selected
      obtain rfl := selected
      exact seeded.commit _ _
  · split
    · exact seeded
    · exact seeded.commit _ _

/-- **No call discards anything.** -/
theorem Seeded.run (accepted : Space.ofText text = .ok s) (legible : s.Legible)
    (seeded : Seeded s chance n g) (past : List Generator.Event) (cs : List (Generator.Call σ)) :
    Seeded s chance n (g.run past cs).2 := by
  induction cs generalizing g past with
  | nil => exact seeded
  | cons c cs ih =>
    cases c with
    | generate patience w => exact ih (seeded.generate accepted legible patience w) _
    | feedback confirmed vs =>
      have fed : Seeded s chance n (g.feedback confirmed vs).1 :=
        ⟨seeded.space, seeded.seeds, seeded.discarded⟩
      exact ih fed _

end

/-- **Drawn seeds are always read.** Take a space whose names can be told apart in a text, any chance
and any random words. The text that is drawn is the row of arguments for the levels that are drawn,
and it is read. The configuration has the drawn level of each option that is set: an integer of the
range, or a registered level that is no placeholder. Each other option has its default, and nothing
else has a level. A generator with such seeds discards none of their texts, in whatever way it is
called, and the first text that it asks for gives it a seed. -/
theorem seeds_parsed (accepted : Space.ofText text = .ok s) (legible : s.Legible)
    (chance : Double) :
    (∀ w : σ, ∃ xs c, xs = (outcomes chance s.dimensions.values w).1 ∧
      xs.map (·.1) = s.dimensions.values ∧
      ((RandomSeeds.mk s chance).draw w).1 =
        " ".intercalate ((drawn xs).flatMap Configuration.argumentsOf) ∧
      Configuration.parse s ((RandomSeeds.mk s chance).draw w).1 = .ok c ∧
      s.Total c.assignment ∧
      ∀ x ∈ xs,
        (∀ v, x.2 = some v → c.get? x.1.name = some ⟨x.1.name, v⟩ ∧
          (x.1.isInteger = true ∧ (∃ n, x.1.Takes n ∧ v = Text.showInteger n) ∨
            x.1.isInteger = false ∧ v ∈ x.1.levels ∧
              Level.isPlaceholder ⟨x.1.name, v⟩ = false)) ∧
        (x.2 = none → ∃ l, x.1.defaultLevel = .ok l ∧ c.get? x.1.name = some l)) ∧
    ∀ (plan : Plan) (targets : List Target) (g : Generator RandomSeeds),
      Generator.make s plan ⟨s, chance⟩ targets = .ok g → ∀ cs : List (Generator.Call σ),
        (g.run [] cs).2.discarded = 0 ∧
        ∀ (patience : Nat) (w : σ), ∃ c,
          (g.run [] cs).2.nextSeed (patience + 1) w =
            (.ok c, (g.run [] cs).2, ((RandomSeeds.mk s chance).draw w).2) := by
  refine ⟨fun w => ?_, fun plan targets g made cs => ?_⟩
  · obtain ⟨c, parsed, total, levels⟩ := parse_draw accepted legible chance w
    refine ⟨_, c, rfl, dimensions_outcomes chance _ w, text_draw s chance w, parsed, total,
      fun x hx => ⟨fun v hv => ?_, (levels x hx).2⟩⟩
    obtain ⟨draws, held⟩ := (levels x hx).1 v hv
    exact ⟨held, draws⟩
  · have start : Seeded s chance 0 g := by
      unfold Generator.make at made
      split at made
      · cases made
      · obtain rfl := Except.ok.inj made
        exact ⟨rfl, rfl, rfl⟩
    have seeded := start.run accepted legible [] cs
    refine ⟨seeded.discarded, fun patience w => ?_⟩
    obtain ⟨c, -, next⟩ := nextSeed_drawn accepted legible seeded patience w
    exact ⟨c, next⟩

/-- Two campaigns in a row, the second of them from a drawn seed. -/
def dialsCalls : List (Generator.Call Replay) :=
  [.generate 1 (Replay.ofList []), .generate 1 (Replay.ofList [])]

/-- Both options are set: the flag to its first level, and the integer to the least one. -/
theorem seeds_parsed_dials :
    ((RandomSeeds.mk Configuration.dialsSpace Double.one).draw (Replay.ofList [])).1 =
        "--flag --n -9" ∧
      (∃ c, Configuration.parse Configuration.dialsSpace "--flag --n -9" = .ok c ∧
        c.get? "flag" = some ⟨"flag", "TRUE"⟩ ∧ c.get? "n" = some ⟨"n", "-9"⟩) ∧
      ∃ g, Generator.make Configuration.dialsSpace ⟨1, 1⟩
          (RandomSeeds.mk Configuration.dialsSpace Double.one) [⟨"p"⟩] = .ok g ∧
        (g.run [] dialsCalls).2.discarded = 0 := by
  obtain ⟨every, runs⟩ := seeds_parsed (σ := Replay) Configuration.ofText_dialsText
    Configuration.legible_dialsSpace Double.one
  have text : ((RandomSeeds.mk Configuration.dialsSpace Double.one).draw (Replay.ofList [])).1 =
      "--flag --n -9" := by decide +kernel
  have drawn : (outcomes Double.one Configuration.dialsSpace.dimensions.values
      (Replay.ofList [])).1.map (fun x => (x.1.name, x.2)) =
        [("flag", some "TRUE"), ("n", some "-9")] := by decide +kernel
  obtain ⟨xs, c, rfl, -, -, parsed, -, levels⟩ := every (Replay.ofList [])
  have held (name v : String) (h : (name, some v) ∈ [("flag", some "TRUE"), ("n", some "-9")]) :
      c.get? name = some ⟨name, v⟩ := by
    rw [← drawn] at h
    obtain ⟨x, hx, same⟩ := List.mem_map.mp h
    obtain ⟨rfl, value⟩ := Prod.mk.inj same
    exact ((levels x hx).1 v value).1
  rw [text] at parsed
  exact ⟨text, ⟨c, parsed, held _ _ (by simp), held _ _ (by simp)⟩, _, rfl,
    (runs ⟨1, 1⟩ [⟨"p"⟩] _ rfl dialsCalls).1⟩

end RandomSeeds
end OrderTrials
