import OrderTrials.Proofs.Rendering
/-
# The grammar of a seed

The words of a seed fall into groups, each of a word with two dashes in front, which names an
option, and at most one word without, its value (`Configuration.Group`). The reader accepts just the
rows of groups whose values name levels, and enters the levels one after the other
(`Configuration.readWords_groups`, `Configuration.groups_of_readWords`), so that the last group of an
option counts.

What is wrong with a word can be told from the word itself, the one before it and the one after it
(`Configuration.Faulty`). So the faults of what the reader has left are the faults of the whole at
later places (`Configuration.faulty_succ`), and the fault that it reports is the leftmost one
(`Configuration.found_readWords`).

Key definitions: `Space.Built`, `Configuration.Group`, `Configuration.Faulty`,
`Configuration.Found`.
Key theorems: `Configuration.assign_error_iff`, `Configuration.faulty_succ`,
`Configuration.found_readWords`, `Configuration.readWords_groups`,
`Configuration.groups_of_readWords`, `Configuration.parse_grammar`.
-/

namespace OrderTrials

/-! ### Spaces that are built -/

namespace Space

/-- The spaces that adding dimensions one after the other leads to. -/
inductive Built : Space → Prop where
  | empty (name : String) : Built (empty name)
  | add {s s' : Space} {d : Dimension} : Built s → s.add d = .ok s' → Built s'

theorem Built.wellNamed {s : Space} (h : s.Built) : s.WellNamed := by
  induction h with
  | empty name =>
    intro k d hd
    simp [dimension?, Space.empty, Table.empty, Table.get?] at hd
  | add _ added ih =>
    intro k d hd
    rcases (Artifact.add_ok added k d).mp hd with before | ⟨own, rfl⟩
    · exact ih k d before
    · exact own

/-- A space that is read from a text is built. -/
theorem built_of_text {s : Space} {text : String} (accepted : ofText text = .ok s) : s.Built := by
  obtain ⟨a, -, built⟩ := (ofText_eq_ok_iff text s).mp accepted
  refine invariant_of_foldlM (fun e _ s s' start hs' => ?_) (.empty a.name) built
  obtain ⟨d, -, added⟩ := (bind_eq_ok_iff _ _ _).mp hs'
  exact .add start added

end Space

namespace Configuration

variable {s : Space} {a a' given : Assignment} {c : Configuration} {ws : List String}
  {w name : String} {e : SeedFault} {l : Level}

theorem optionName?_eq_some_iff : optionName? w = some name ↔ w = "--" ++ name := by
  constructor
  · intro h
    unfold optionName? at h
    split at h
    · rename_i r shape
      obtain rfl := Option.some.inj h
      have dashes : "--".toList = ['-', '-'] := rfl
      refine String.toList_injective ?_
      rw [shape, String.toList_append, dashes, String.toList_ofList]
      rfl
    · cases h
  · rintro rfl
    exact optionName?_dashes name

/-! ### Groups -/

/-- An option and what stands for its value. -/
structure Group where
  name : String
  value? : Option String

namespace Group

/-- The words of a group: one with two dashes in front, and the value if there is one. -/
def words (g : Group) : List String := ("--" ++ g.name) :: g.value?.toList

/-- The value that a group gives to its option. -/
def value (g : Group) : String := g.value?.getD flagValue

/-- The word for the value does not start with two dashes. -/
def Proper (g : Group) : Prop := ∀ v, g.value? = some v → ¬ ['-', '-'] <+: v.toList

/-- Gives the value of a group to its option. -/
def enter (s : Space) (a : Assignment) (g : Group) : Except SeedFault Assignment :=
  assign s a g.name g.value

/-- The value of a group names a level of its option; no placeholder, on an option of integers. -/
def Names (s : Space) (g : Group) (l : Level) : Prop :=
  ∃ d, s.dimension? g.name = some d ∧ d.level g.value = .ok l ∧
    (d.isInteger = true → l.isPlaceholder = false)

theorem Names.unique {s : Space} {g : Group} {l l' : Level} (h : g.Names s l) (h' : g.Names s l') :
    l = l' := by
  obtain ⟨d, hd, level, -⟩ := h
  obtain ⟨d', hd', level', -⟩ := h'
  obtain rfl : d = d' := Option.some.inj (hd.symm.trans hd')
  exact Except.ok.inj (level.symm.trans level')

end Group

/-! ### Faults -/

/-- The value of an option, from the word that follows: that word, unless it is missing or starts
with two dashes. -/
def valueOf : Option String → String
  | some w => if (optionName? w).isSome then flagValue else w
  | none => flagValue

theorem valueOf_option (option : (optionName? w).isSome = true) :
    valueOf (some w) = flagValue := if_pos option

theorem valueOf_value (plain : optionName? w = none) : valueOf (some w) = w :=
  if_neg (by simp [plain])

/-- Why an option is not given a value: there is no such option, the value names no level of it, or
it names a placeholder of an option of integers. -/
inductive Refuses (s : Space) (name value : String) : SeedFault → Prop where
  | unknown : s.dimension? name = none → Refuses s name value (.unknownOption name)
  | invalid {d : Dimension} {fault : SpaceError} : s.dimension? name = some d →
      d.level value = .error fault → Refuses s name value (.invalidValue name value fault.message)
  | placeholder {d : Dimension} {l : Level} : s.dimension? name = some d → d.level value = .ok l →
      d.isInteger = true → l.isPlaceholder = true →
      Refuses s name value
        (.invalidValue name value "placeholder levels only appear in partial orders")

/-- What is wrong with the word at some place among others: it is neither an option nor the value of
one, or its option is not given its value. -/
inductive Faulty (s : Space) (ws : List String) (i : Nat) : SeedFault → Prop where
  | stray {w : String} : ws[i]? = some w → ¬ ['-', '-'] <+: w.toList →
      (∀ j p, i = j + 1 → ws[j]? = some p → ¬ ['-', '-'] <+: p.toList) →
      Faulty s ws i (.unexpectedToken w)
  | refused {name : String} {e : SeedFault} : ws[i]? = some ("--" ++ name) →
      Refuses s name (valueOf ws[i + 1]?) e → Faulty s ws i e

/-- What a reader finds: no fault if it succeeds, and else the leftmost one. -/
def Found (s : Space) (ws : List String) : Except SeedFault Assignment → Prop
  | .ok _ => ∀ i e, ¬ Faulty s ws i e
  | .error e => ∃ i, Faulty s ws i e ∧ ∀ j < i, ∀ e', ¬ Faulty s ws j e'

theorem levelOf_error_iff {d : Dimension} (hd : s.dimension? name = some d) (value : String)
    (e : SeedFault) : levelOf d name value = .error e ↔ Refuses s name value e := by
  have own {d' : Dimension} (hd' : s.dimension? name = some d') : d = d' :=
    Option.some.inj (hd.symm.trans hd')
  unfold levelOf
  constructor
  · intro h
    split at h
    · rename_i fault refused
      obtain rfl := Except.error.inj h
      exact .invalid hd refused
    · rename_i l named
      split at h
      · rename_i both
        obtain ⟨integer, placeholder⟩ := Bool.and_eq_true_iff.mp both
        obtain rfl := Except.error.inj h
        exact .placeholder hd named integer placeholder
      · cases h
  · intro h
    cases h with
    | unknown none => cases hd.symm.trans none
    | invalid hd' refused =>
      obtain rfl := own hd'
      rw [refused]
    | placeholder hd' named integer placeholder =>
      obtain rfl := own hd'
      rw [named]
      dsimp only
      rw [integer, placeholder]
      rfl

/-- **An option is given a value,** or refuses it. -/
theorem assign_error_iff (s : Space) (a : Assignment) (name value : String) (e : SeedFault) :
    assign s a name value = .error e ↔ Refuses s name value e := by
  cases hd : s.dimension? name with
  | none =>
    have unknown : assign s a name value = .error (.unknownOption name) := by
      rw [assign, hd]
      rfl
    rw [unknown]
    constructor
    · intro h
      obtain rfl := Except.error.inj h
      exact .unknown hd
    · intro h
      cases h with
      | unknown _ => rfl
      | invalid hd' _ => cases hd.symm.trans hd'
      | placeholder hd' _ _ _ => cases hd.symm.trans hd'
  | some d =>
    rw [← levelOf_error_iff hd, assign, hd]
    dsimp only
    cases levelOf d name value with
    | error fault =>
      have stays : (do return a.insert d.name (← .error fault) : Except SeedFault Assignment) =
          .error fault := rfl
      rw [stays, Except.error.injEq, Except.error.injEq]
    | ok l =>
      constructor
      · intro h
        cases h
      · intro h
        cases h

/-- The first word is at fault if its option refuses its value. -/
theorem faulty_zero_iff (named : optionName? w = some name) :
    Faulty s (w :: ws) 0 e ↔ Refuses s name (valueOf ws[0]?) e := by
  constructor
  · intro h
    cases h with
    | stray here undashed _ =>
      obtain rfl := Option.some.inj here
      rw [← optionName?_eq_none_iff, named] at undashed
      cases undashed
    | refused here refuses =>
      obtain rfl := Option.some.inj here
      rw [optionName?_dashes] at named
      obtain rfl := Option.some.inj named
      exact refuses
  · intro h
    exact .refused (congrArg some (optionName?_eq_some_iff.mp named)) h

theorem faulty_stray (stray : optionName? w = none) :
    Faulty s (w :: ws) 0 (.unexpectedToken w) := by
  refine .stray rfl ((optionName?_eq_none_iff w).mp stray) ?_
  rintro j p ⟨⟩

/-- The value of an option is not at fault by itself. -/
theorem not_faulty_value {v : String} (option : (optionName? w).isSome = true)
    (undashed : optionName? v = none) (e : SeedFault) : ¬ Faulty s (w :: v :: ws) 1 e := by
  intro h
  cases h with
  | stray _ _ before =>
    have stray := (optionName?_eq_none_iff w).mpr (before 0 w rfl rfl)
    rw [stray] at option
    cases option
  | refused here _ =>
    rw [Option.some.inj here, optionName?_dashes] at undashed
    cases undashed

/-- **A fault further on is one of the rest,** unless the rest starts with a value. -/
theorem faulty_succ {i : Nat} (h : i = 0 → optionName? w = none ∨ Starts ws) (e : SeedFault) :
    Faulty s (w :: ws) (i + 1) e ↔ Faulty s ws i e := by
  constructor
  · intro faulty
    cases faulty with
    | stray here undashed before =>
      refine .stray here undashed fun j p hj hp => before (j + 1) p (congrArg (· + 1) hj) hp
    | refused here refuses => exact .refused here refuses
  · intro faulty
    cases faulty with
    | stray here undashed before =>
      refine .stray here undashed fun j p hj hp => ?_
      obtain rfl : i = j := Nat.succ.inj hj
      cases i with
      | zero =>
        -- the first of the rest is no option, so the word before it is none either
        obtain rfl : w = p := Option.some.inj hp
        refine (optionName?_eq_none_iff w).mp ((h rfl).resolve_right fun starts => ?_)
        have option := starts _ (List.head?_eq_getElem? ▸ here)
        rw [(optionName?_eq_none_iff _).mpr undashed] at option
        cases option
      | succ i => exact before i p rfl hp
    | refused here refuses => exact .refused here refuses

/-! ### What is found -/

/-- What is found in the rest is found in the whole, if there is no fault before it. -/
theorem Found.shift {ws' : List String} {out : Except SeedFault Assignment} {k : Nat}
    (h : Found s ws out) (before : ∀ j < k, ∀ e, ¬ Faulty s ws' j e)
    (rest : ∀ i e, Faulty s ws' (i + k) e ↔ Faulty s ws i e) : Found s ws' out := by
  have shifted {n : Nat} (clean : ∀ j < n, ∀ e, ¬ Faulty s ws j e) :
      ∀ j < n + k, ∀ e, ¬ Faulty s ws' j e := by
    intro j hj e
    rcases Nat.lt_or_ge j k with early | late
    · exact before j early e
    · obtain ⟨i, rfl⟩ := Nat.exists_eq_add_of_le' late
      rw [rest]
      exact clean i (by omega) e
  cases out with
  | ok _ => exact fun i e => shifted (n := i + 1) (fun j _ => h j) i (by omega) e
  | error e =>
    obtain ⟨i, faulty, first⟩ := h
    exact ⟨i + k, (rest i e).mpr faulty, shifted first⟩

theorem found_zero (faulty : Faulty s ws 0 e) : Found s ws (.error e) :=
  ⟨0, faulty, fun j hj => absurd hj (Nat.not_lt_zero j)⟩

theorem found_nil (s : Space) (a : Assignment) : Found s [] (.ok a) := by
  intro i e faulty
  cases faulty with
  | stray here _ _ => cases here
  | refused here _ => cases here

theorem not_faulty_zero (named : optionName? w = some name)
    (assigned : assign s a name (valueOf ws[0]?) = .ok a') (e : SeedFault) :
    ¬ Faulty s (w :: ws) 0 e := by
  intro faulty
  have refused := (assign_error_iff s a _ _ e).mpr ((faulty_zero_iff named).mp faulty)
  rw [assigned] at refused
  cases refused

theorem found_refused (named : optionName? w = some name)
    (refused : assign s a name (valueOf ws[0]?) = .error e) : Found s (w :: ws) (.error e) :=
  found_zero ((faulty_zero_iff named).mpr ((assign_error_iff s a _ _ e).mp refused))

/-- **The fault that is reported is the leftmost one.** -/
theorem found_readWords (s : Space) (a : Assignment) (ws : List String) :
    Found s ws (readWords s a ws) := by
  fun_induction readWords s a ws with
  | case1 a => exact found_nil s a
  | case2 a word stray => exact found_zero (faulty_stray stray)
  | case3 a word name named =>
    cases assigned : assign s a name flagValue with
    | error e => exact found_refused named assigned
    | ok a' =>
      refine (found_nil s a').shift (k := 1) (fun j hj e => ?_) fun i e =>
        faulty_succ (fun _ => .inr ?_) e
      · obtain rfl := Nat.lt_one_iff.mp hj
        exact not_faulty_zero named assigned e
      · rintro _ ⟨⟩
  | case4 a word next rest stray => exact found_zero (faulty_stray stray)
  | case5 a word next rest name named option fault refused =>
    exact found_refused named ((valueOf_option option).symm ▸ refused)
  | case6 a word next rest name named option a' assigned ih =>
    refine ih.shift (k := 1) (fun j hj e => ?_) fun i e => faulty_succ (fun _ => .inr ?_) e
    · obtain rfl := Nat.lt_one_iff.mp hj
      exact not_faulty_zero named ((valueOf_option option).symm ▸ assigned) e
    · rintro _ ⟨⟩
      exact option
  | case7 a word next rest name named undashed fault refused =>
    have plain : optionName? next = none := Option.not_isSome_iff_eq_none.mp undashed
    exact found_refused named ((valueOf_value plain).symm ▸ refused)
  | case8 a word next rest name named undashed a' assigned ih =>
    have plain : optionName? next = none := Option.not_isSome_iff_eq_none.mp undashed
    refine ih.shift (k := 2) (fun j hj e => ?_) fun i e => ?_
    · rcases Nat.lt_succ_iff_lt_or_eq.mp hj with first | rfl
      · obtain rfl := Nat.lt_one_iff.mp first
        exact not_faulty_zero named ((valueOf_value plain).symm ▸ assigned) e
      · exact not_faulty_value (named ▸ rfl) plain e
    · rw [faulty_succ (fun h => absurd h (Nat.succ_ne_zero i)), faulty_succ fun _ => .inl plain]

/-- At one place there is one fault. -/
theorem Faulty.unique {i : Nat} {e' : SeedFault} (h : Faulty s ws i e) (h' : Faulty s ws i e') :
    e = e' := by
  have dashed {w name : String} (here : some w = some ("--" ++ name)) :
      optionName? w = some name := by
    rw [Option.some.inj here, optionName?_dashes]
  have plain {w : String} (undashed : ¬ ['-', '-'] <+: w.toList) : optionName? w = none :=
    (optionName?_eq_none_iff w).mpr undashed
  cases h with
  | stray here undashed _ =>
    cases h' with
    | stray here' _ _ => rw [Option.some.inj (here.symm.trans here')]
    | refused here' _ => cases (plain undashed).symm.trans (dashed (here.symm.trans here'))
  | refused here refuses =>
    cases h' with
    | stray here' undashed _ => cases (plain undashed).symm.trans (dashed (here'.symm.trans here))
    | refused here' refuses' =>
      have same := dashed (here.symm.trans here')
      rw [optionName?_dashes] at same
      obtain rfl := Option.some.inj same
      have refused := (assign_error_iff s .empty _ _ e).mpr refuses
      have refused' := (assign_error_iff s .empty _ _ e').mpr refuses'
      exact Except.error.inj (refused.symm.trans refused')

/-- There is one leftmost fault. -/
theorem Found.leftmost_iff {e' : SeedFault} (h : Found s ws (.error e')) :
    e' = e ↔ ∃ i, Faulty s ws i e ∧ ∀ j < i, ∀ e'', ¬ Faulty s ws j e'' := by
  obtain ⟨i, faulty, first⟩ := h
  constructor
  · rintro rfl
    exact ⟨i, faulty, first⟩
  · rintro ⟨i', faulty', first'⟩
    rcases Nat.lt_trichotomy i i' with early | rfl | late
    · exact absurd faulty (first' i early e')
    · exact faulty.unique faulty'
    · exact absurd faulty' (first i' late e)

/-! ### What is read -/

/-- A group that names a level enters it, and no other one is taken. -/
theorem Group.enter_ok_iff (named : s.WellNamed) (g : Group) (a : Assignment) :
    Group.enter s a g = .ok a' ↔ ∃ l, g.Names s l ∧ a' = a.insert g.name l := by
  unfold Group.enter
  constructor
  · intro h
    obtain ⟨d, l, hd, read, rfl⟩ := assign_ok h
    obtain ⟨level, plain⟩ := Dimension.level_of_levelOf read
    exact ⟨l, ⟨d, hd, level, plain⟩, by rw [named g.name d hd]⟩
  · rintro ⟨l, ⟨d, hd, level, plain⟩, rfl⟩
    have read : levelOf d g.name g.value = .ok l := by
      rw [levelOf, level]
      by_cases integer : d.isInteger = true <;> simp_all
    rw [assign, hd]
    dsimp only
    rw [read, named g.name d hd]
    rfl

theorem Group.starts_words (g : Group) (rest : List String) : Starts (g.words ++ rest) := by
  intro w hw
  obtain rfl := Option.some.inj hw
  rw [optionName?_dashes]
  rfl

theorem starts_groups (gs : List Group) : Starts (gs.flatMap Group.words) := by
  cases gs with
  | nil =>
    intro w hw
    cases hw
  | cons g gs => exact g.starts_words _

/-- **One group is read.** -/
theorem readWords_group {g : Group} {rest : List String} (proper : g.Proper) (starts : Starts rest)
    (a : Assignment) : readWords s a (g.words ++ rest) =
      Group.enter s a g >>= fun a' => readWords s a' rest := by
  unfold Group.enter
  obtain ⟨name, value⟩ := g
  cases value with
  | some v =>
    have plain := (optionName?_eq_none_iff v).mpr (proper v rfl)
    simp only [Group.words, Group.value, Option.toList_some, Option.getD_some, List.cons_append,
      List.nil_append]
    rw [readWords, optionName?_dashes, plain]
    dsimp only
    rw [if_neg (by simp)]
    cases assign s a name v <;> rfl
  | none =>
    simp only [Group.words, Group.value, Option.toList_none, Option.getD_none, List.cons_append,
      List.nil_append]
    cases rest with
    | nil =>
      simp only [readWords, optionName?_dashes]
      cases assign s a name flagValue <;> rfl
    | cons w rest =>
      rw [readWords, optionName?_dashes]
      dsimp only
      rw [if_pos (starts w rfl)]
      cases assign s a name flagValue <;> rfl

/-- **Groups are read one after the other.** -/
theorem readWords_groups {gs : List Group} (proper : ∀ g ∈ gs, g.Proper) (a : Assignment) :
    readWords s a (gs.flatMap Group.words) = gs.foldlM (Group.enter s) a := by
  induction gs generalizing a with
  | nil => rw [List.flatMap_nil, readWords]; rfl
  | cons g gs ih =>
    rw [List.flatMap_cons, readWords_group (proper g List.mem_cons_self) (starts_groups gs),
      List.foldlM_cons]
    exact congrArg _ (funext fun a => ih (fun g' hg' => proper g' (List.mem_cons_of_mem g hg')) a)

/-- **What is read falls into groups,** each of which names a level. -/
theorem groups_of_readWords (named : s.WellNamed) (h : readWords s a ws = .ok a') :
    ∃ gs : List Group, ws = gs.flatMap Group.words ∧
      ∀ g ∈ gs, g.Proper ∧ ∃ l, g.Names s l := by
  have names {g : Group} {a a' : Assignment} (entered : Group.enter s a g = .ok a') :
      ∃ l, g.Names s l := by
    obtain ⟨l, names, -⟩ := (g.enter_ok_iff named a).mp entered
    exact ⟨l, names⟩
  fun_induction readWords s a ws with
  | case1 a => exact ⟨[], rfl, by simp⟩
  | case2 | case4 | case5 | case7 => cases h
  | case3 a word name option =>
    refine ⟨[⟨name, none⟩], ?_, List.forall_mem_singleton.mpr ⟨?_, names h⟩⟩
    · rw [optionName?_eq_some_iff.mp option]
      rfl
    · rintro v ⟨⟩
  | case6 a word next rest name option _ a' entered ih =>
    obtain ⟨gs, split, legal⟩ := ih h
    refine ⟨⟨name, none⟩ :: gs, ?_, List.forall_mem_cons.mpr ⟨⟨?_, names entered⟩, legal⟩⟩
    · rw [split, optionName?_eq_some_iff.mp option]
      rfl
    · rintro v ⟨⟩
  | case8 a word next rest name option undashed a' entered ih =>
    obtain ⟨gs, split, legal⟩ := ih h
    refine ⟨⟨name, some next⟩ :: gs, ?_, List.forall_mem_cons.mpr ⟨⟨?_, names entered⟩, legal⟩⟩
    · rw [split, optionName?_eq_some_iff.mp option]
      rfl
    · rintro v ⟨⟩
      exact (optionName?_eq_none_iff next).mp (Option.not_isSome_iff_eq_none.mp undashed)

/-- An option without a group keeps its level. -/
theorem get?_of_absent (named : s.WellNamed) {gs : List Group} {k : String}
    (absent : ∀ g ∈ gs, g.name ≠ k)
    (h : gs.foldlM (Group.enter s) a = .ok given) :
    given.get? k = a.get? k := by
  refine invariant_of_foldlM (p := fun a' : Assignment => a'.get? k = a.get? k) ?_ rfl h
  intro g hg before next kept entered
  obtain ⟨l, -, rfl⟩ := (g.enter_ok_iff named before).mp entered
  rw [Table.get?_insert_of_ne _ _ (absent g hg).symm, kept]

/-- **The last group of an option counts.** -/
theorem get?_of_last (named : s.WellNamed) {before after : List Group} {g : Group}
    (last : ∀ g' ∈ after, g'.name ≠ g.name)
    (h : (before ++ g :: after).foldlM (Group.enter s) a = .ok given) :
    ∃ l, g.Names s l ∧ given.get? g.name = some l := by
  rw [List.foldlM_append] at h
  obtain ⟨a₁, -, h⟩ := (bind_eq_ok_iff _ _ _).mp h
  rw [List.foldlM_cons] at h
  obtain ⟨a₂, entered, h⟩ := (bind_eq_ok_iff _ _ _).mp h
  obtain ⟨l, names, rfl⟩ := (g.enter_ok_iff named a₁).mp entered
  exact ⟨l, names, by rw [get?_of_absent named last h, Table.get?_insert_self]⟩

/-- Where all options have defaults, a text is read if its words are. -/
theorem parse_cases (defaults : ∀ k d, s.dimension? k = some d → ∃ l, d.defaultLevel = .ok l)
    (text : String) :
    (∃ e, readWords s .empty (Text.words text) = .error e ∧ parse s text = .error e) ∨
      ∃ given c, readWords s .empty (Text.words text) = .ok given ∧ parse s text = .ok c := by
  cases read : readWords s .empty (Text.words text) with
  | error e =>
    refine .inl ⟨e, rfl, ?_⟩
    rw [parse, read]
    rfl
  | ok given =>
    obtain ⟨c, completed⟩ := complete_defined defaults given
    refine .inr ⟨given, c, rfl, (bind_eq_ok_iff _ _ _).mpr ⟨given, read, ?_⟩⟩
    rw [completed]
    rfl

/-- The words of a text that is read, in groups, are entered one after the other. -/
theorem parse_groups {text : String} {gs : List Group} (parsed : parse s text = .ok c)
    (split : Text.words text = gs.flatMap Group.words) (proper : ∀ g ∈ gs, g.Proper) :
    ∃ given, gs.foldlM (Group.enter s) .empty = .ok given ∧
      complete s given = .ok c := by
  obtain ⟨given, read, completed⟩ := parse_ok parsed
  rw [split, readWords_groups proper] at read
  exact ⟨given, read, completed⟩

/-- **The grammar of a seed.** Take a space that is built by adding dimensions, each of which has a
default, and any text. The text is read if and only if its words fall into groups of a word with two
dashes in front and at most one word without, such that the first names an option of the space, and
the second, or else `TRUE`, a level of that option that is no placeholder of an option of integers.
However the words are grouped, each option then has the level that its last group names, or its
default if it has no group; nothing else has a level, and no option is under investigation. If the
text is not read, the fault is that of the leftmost word at which something is wrong: the word is
neither an option nor a value, its option is unknown, or the value of its option is refused. -/
theorem parse_grammar (built : s.Built)
    (defaults : ∀ k d, s.dimension? k = some d → ∃ l, d.defaultLevel = .ok l) (text : String) :
    ((∃ c, parse s text = .ok c) ↔ ∃ gs : List Group, Text.words text = gs.flatMap Group.words ∧
      ∀ g ∈ gs, g.Proper ∧ ∃ l, g.Names s l) ∧
    (∀ c gs, parse s text = .ok c → Text.words text = gs.flatMap Group.words →
      (∀ g ∈ gs, g.Proper) →
        c.investigated = none ∧ s.Total c.assignment ∧
        (∀ before g after, gs = before ++ g :: after → (∀ g' ∈ after, g'.name ≠ g.name) →
          ∃ l, g.Names s l ∧ c.get? g.name = some l) ∧
        ∀ k d, s.dimension? k = some d → (∀ g ∈ gs, g.name ≠ k) →
          ∃ l, d.defaultLevel = .ok l ∧ c.get? k = some l) ∧
    ∀ e, parse s text = .error e ↔
      ∃ i, Faulty s (Text.words text) i e ∧ ∀ j < i, ∀ e', ¬ Faulty s (Text.words text) j e' := by
  have named := built.wellNamed
  have found := found_readWords s .empty (Text.words text)
  refine ⟨?_, fun c gs parsed split proper => ?_, fun e => ?_⟩
  · constructor
    · rintro ⟨c, parsed⟩
      obtain ⟨given, read, -⟩ := parse_ok parsed
      exact groups_of_readWords named read
    · rintro ⟨gs, split, legal⟩
      have entered (g : Group) (hg : g ∈ gs) (a : Assignment) :
          ∃ a', Group.enter s a g = .ok a' := by
        obtain ⟨l, names⟩ := (legal g hg).2
        exact ⟨_, (g.enter_ok_iff named a).mpr ⟨l, names, rfl⟩⟩
      obtain ⟨given, all⟩ := foldlM_defined entered .empty
      rw [← readWords_groups fun g hg => (legal g hg).1, ← split] at all
      rcases parse_cases defaults text with ⟨e, read, -⟩ | ⟨-, c, -, parsed⟩
      · cases all.symm.trans read
      · exact ⟨c, parsed⟩
  · obtain ⟨given, entered, completed⟩ := parse_groups parsed split proper
    have total := total_parse named parsed
    refine ⟨investigated_parse parsed, total, ?_, fun k d hd absent => ?_⟩
    · rintro before g after rfl last
      obtain ⟨l, names, held⟩ := get?_of_last named last entered
      exact ⟨l, names, kept_of_complete completed held⟩
    · have there : (c.get? k).isSome = true := (total k).trans (hd ▸ rfl)
      obtain ⟨l, held⟩ := Option.isSome_iff_exists.mp there
      have nothing : given.get? k = none := get?_of_absent named absent entered
      have default := (level_of_complete named completed hd held).resolve_left (by simp [nothing])
      exact ⟨l, default, held⟩
  · rcases parse_cases defaults text with ⟨e', read, parsed⟩ | ⟨given, c, read, parsed⟩
    · rw [read] at found
      rw [parsed, Except.error.injEq, found.leftmost_iff]
    · rw [read] at found
      rw [parsed]
      constructor
      · intro h
        cases h
      · rintro ⟨i, faulty, -⟩
        exact absurd faulty (found i e)

/-- An option of integers, a flag, and the option of integers again. -/
def dialsGroups : List Group := [⟨"n", some "3"⟩, ⟨"flag", none⟩, ⟨"n", some "7"⟩]

/-- The last value of an option counts, and a second value is at fault before an option that is not
known. -/
theorem parse_grammar_dials :
    (∃ c, parse dialsSpace "--n 3 --flag --n 7" = .ok c ∧ c.get? "n" = some ⟨"n", "7"⟩ ∧
      c.investigated = none) ∧
    ∃ i, Faulty dialsSpace (Text.words "--n 3 4 --m 5") i (.unexpectedToken "4") := by
  have built := Space.built_of_text ofText_dialsText
  have defaults (k : String) (d : Dimension) (hd : dialsSpace.dimension? k = some d) :=
    Space.exists_defaultLevel ofText_dialsText hd
  constructor
  · obtain ⟨accepted, levels, -⟩ := parse_grammar built defaults "--n 3 --flag --n 7"
    have split : Text.words "--n 3 --flag --n 7" = dialsGroups.flatMap Group.words := by
      decide +kernel
    have proper : ∀ g ∈ dialsGroups, g.Proper := by
      have plain : ∀ g ∈ dialsGroups, ∀ v ∈ g.value?.toList, ¬ ['-', '-'] <+: v.toList := by
        decide +kernel
      exact fun g hg v hv => plain g hg v (Option.mem_toList.mpr hv)
    have names : ∀ g ∈ dialsGroups, g.Names dialsSpace ⟨g.name, g.value⟩ := by
      have level : ∀ g ∈ dialsGroups, ∃ d ∈ dialsSpace.dimensions.values,
          dialsSpace.dimension? g.name = some d ∧ d.level g.value = .ok ⟨g.name, g.value⟩ ∧
            Level.isPlaceholder ⟨g.name, g.value⟩ = false := by decide +kernel
      intro g hg
      obtain ⟨d, -, found, level, plain⟩ := level g hg
      exact ⟨d, found, level, fun _ => plain⟩
    obtain ⟨c, parsed⟩ := accepted.mpr ⟨_, split, fun g hg => ⟨proper g hg, _, names g hg⟩⟩
    obtain ⟨start, -, last, -⟩ := levels c _ parsed split proper
    obtain ⟨l, named, held⟩ := last [⟨"n", some "3"⟩, ⟨"flag", none⟩] ⟨"n", some "7"⟩ [] rfl (by simp)
    have level := names ⟨"n", some "7"⟩ (by simp [dialsGroups])
    exact ⟨c, parsed, named.unique level ▸ held, start⟩
  · obtain ⟨-, -, leftmost⟩ := parse_grammar built defaults "--n 3 4 --m 5"
    obtain ⟨i, faulty, -⟩ := (leftmost (.unexpectedToken "4")).mp (by decide +kernel)
    exact ⟨i, faulty⟩

end Configuration
end OrderTrials
