import OrderTrials.Proofs.Ranging
/-
# Configurations read back

A configuration is written in full, or as the arguments that leave out defaults and shorten the
level `TRUE` to a bare option. Both are rows of words, and in both each level is spelled by its
option and then either itself or nothing (`Configuration.Spells`). The reader takes one level after
the other, because an option starts with two dashes and a level does not
(`Configuration.readWords_spells`), and what it has read is completed to the configuration that was
written, because only defaults were left out (`Configuration.complete_of_agrees`).

Key definitions: `Text.IsWord`, `Space.Legible`, `Configuration.Spells`, `Configuration.Readable`.
Key theorems: `Text.words_intercalate`, `Space.Legible.level`, `Configuration.readWords_levels`,
`Configuration.parse_of_spelled`, `Configuration.parse_text_and_arguments`.
-/

namespace OrderTrials

/-! ### Words between blanks -/

namespace Text

/-- Some characters, none of them white space. -/
def IsWord (w : String) : Prop := w ≠ "" ∧ ∀ c ∈ w.toList, isBlank c = false

instance : DecidablePred IsWord := fun w =>
  decidable_of_iff (w ≠ "" ∧ w.toList.all (!isBlank ·) = true) (by simp [IsWord])

theorem wordsOf_append {c : Char} (hc : isBlank c = true) (a b : List Char) :
    wordsOf (a ++ c :: b) = wordsOf a ++ wordsOf b := by
  rw [wordsOf, splitAt_append hc, List.filter_append]
  rfl

/-- The words of texts with blanks between them are the words of the texts. -/
theorem wordsOf_intercalate (ts : List (List Char)) :
    wordsOf ([' '].intercalate ts) = ts.flatMap wordsOf := by
  induction ts with
  | nil => rfl
  | cons t ts ih =>
    cases ts with
    | nil => simp
    | cons u ts =>
      rw [List.intercalate_cons_cons, List.append_assoc, List.singleton_append,
        wordsOf_append (by decide), ih]
      rfl

theorem words_intercalate (ts : List String) : words (" ".intercalate ts) = ts.flatMap words := by
  have blank : " ".toList = [' '] := rfl
  rw [words, String.toList_intercalate, blank, wordsOf_intercalate, List.flatMap_map,
    List.map_flatMap]
  rfl

theorem words_of_isWord {w : String} (h : IsWord w) : words w = [w] := by
  have chars : w.toList.isEmpty = false := by
    rw [List.isEmpty_eq_false_iff, Ne, String.toList_eq_nil_iff]
    exact h.1
  rw [words, wordsOf, splitAt_of_none h.2]
  simp [chars]

/-- Words that are put together with blanks are the words of the result. -/
theorem words_unwords {ws : List String} (h : ∀ w ∈ ws, IsWord w) :
    words (" ".intercalate ws) = ws := by
  rw [words_intercalate]
  induction ws with
  | nil => rfl
  | cons w ws ih =>
    rw [List.flatMap_cons, words_of_isWord (h w List.mem_cons_self),
      ih fun w' hw' => h w' (List.mem_cons_of_mem w hw')]
    rfl

theorem isBlank_of_isDigit {c : Char} (h : c.isDigit = true) : isBlank c = false := by
  simp only [Char.isDigit, Bool.and_eq_true, decide_eq_true_eq] at h
  have low : 48 ≤ c.toNat := h.1
  have high : c.toNat ≤ 57 := h.2
  simp only [isBlank, Bool.or_eq_false_iff, Bool.and_eq_false_iff, decide_eq_false_iff_not,
    beq_eq_false_iff_ne]
  omega

/-- **A numeral is a word,** and it does not start with two dashes. -/
theorem isWord_of_readSigned {v : Int} {w : String} (h : readSigned w = some v) :
    IsWord w ∧ ¬ ['-', '-'] <+: w.toList := by
  have plain {digits : List Char} (h : IsDigits digits) : ∀ c ∈ digits, isBlank c = false :=
    fun c hc => isBlank_of_isDigit (h.2 c hc)
  have undashed {digits : List Char} (h : IsDigits digits) (r : List Char) :
      ¬ '-' :: r <+: digits := by
    intro dash
    exact absurd (h.2 '-' (dash.subset List.mem_cons_self)) (by decide)
  have denotes := ((readSigned_eq_some_iff w v).mp h).1
  rw [IsWord, Ne, ← String.toList_eq_nil_iff]
  generalize w.toList = s at denotes
  cases denotes with
  | unsigned digits => exact ⟨⟨digits.1, plain digits⟩, undashed digits _⟩
  | plus digits =>
    refine ⟨⟨List.cons_ne_nil _ _, List.forall_mem_cons.mpr ⟨by decide, plain digits⟩⟩, ?_⟩
    rw [List.cons_prefix_cons]
    exact fun dashes => absurd dashes.1 (by decide)
  | minus digits =>
    refine ⟨⟨List.cons_ne_nil _ _, List.forall_mem_cons.mpr ⟨by decide, plain digits⟩⟩, ?_⟩
    rw [List.cons_prefix_cons]
    exact fun dashes => undashed digits [] dashes.2

end Text

/-! ### Names that can be told apart in a text -/

namespace Configuration

theorem optionName?_dashes (name : String) : optionName? ("--" ++ name) = some name := by
  have dashes : "--".toList = ['-', '-'] := rfl
  rw [optionName?, String.toList_append, dashes]
  simp

theorem optionName?_eq_none_iff (word : String) :
    optionName? word = none ↔ ¬ ['-', '-'] <+: word.toList := by
  unfold optionName?
  split
  · rename_i r h
    simp [h]
  · rename_i h
    simp only [true_iff]
    rintro ⟨r, hr⟩
    exact h r hr.symm

end Configuration

/-- The names of a space can be told apart in a text: no option has white space in its name, and
each level is a word that does not start with two dashes. -/
structure Space.Legible (s : Space) : Prop where
  options : ∀ k d, s.dimension? k = some d → ∀ c ∈ k.toList, Text.isBlank c = false
  levels : ∀ k d, s.dimension? k = some d → ∀ name ∈ d.levels,
    Text.IsWord name ∧ ¬ ['-', '-'] <+: name.toList

theorem Space.Legible.isWord_option {s : Space} (h : s.Legible) {k : String} {d : Dimension}
    (hd : s.dimension? k = some d) : Text.IsWord ("--" ++ k) := by
  have dashes : "--".toList = ['-', '-'] := rfl
  constructor
  · rw [Ne, ← String.toList_eq_nil_iff, String.toList_append, dashes]
    exact List.cons_ne_nil _ _
  · intro c hc
    rw [String.toList_append, dashes] at hc
    rcases List.mem_append.mp hc with hc | hc
    · simp only [List.mem_cons, List.not_mem_nil, or_false, or_self] at hc
      rw [hc]
      decide
    · exact h.options k d hd c hc

/-- **Each level that is named in a legible space** is a word and does not start with two dashes. -/
theorem Space.Legible.level {s : Space} {text : String} (accepted : Space.ofText text = .ok s)
    (h : s.Legible) {k raw : String} {d : Dimension} {l : Level} (hd : s.dimension? k = some d)
    (hl : d.level raw = .ok l) :
    Text.IsWord l.name ∧ Configuration.optionName? l.name = none := by
  rw [Configuration.optionName?_eq_none_iff]
  obtain ⟨-, -, e, -, -, built⟩ := exists_build accepted hd
  obtain ⟨-, registered | ⟨v, hv, -⟩⟩ := Dimension.level_ok (wellFormed_of_text accepted hd)
    (OptionEntry.bounds_of_build built) hl
  · exact h.levels k d hd l.name registered
  · exact Text.isWord_of_readSigned hv

/-! ### Reading what was written -/

namespace Configuration

variable {s : Space} {a given : Assignment} {c : Configuration} {l : Level} {ls : List Level}
  {rest : List String} {spell : Level → List String}

/-- The words that tell a level: its option and then its name, or its option alone for a flag. -/
inductive Spells (l : Level) : List String → Prop where
  | value : optionName? l.name = none → Spells l ["--" ++ l.option, l.name]
  | flag : l.name = flagValue → Spells l ["--" ++ l.option]

/-- Some words go on with an option, or they are over. -/
def Starts (rest : List String) : Prop := ∀ w ∈ rest.head?, (optionName? w).isSome = true

theorem Spells.starts {ws : List String} (h : Spells l ws) (rest : List String) :
    Starts (ws ++ rest) := by
  have option : (optionName? ("--" ++ l.option)).isSome = true := by
    rw [optionName?_dashes]
    rfl
  cases h <;>
  · intro w hw
    obtain rfl := Option.some.inj hw
    exact option

/-- **One level is read.** -/
theorem readWords_spells {ws : List String} (h : Spells l ws) (starts : Starts rest)
    {a' : Assignment} (assigned : assign s a l.option l.name = .ok a') :
    readWords s a (ws ++ rest) = readWords s a' rest := by
  cases h with
  | value named =>
    rw [List.cons_append, List.singleton_append, readWords, optionName?_dashes]
    simp [named, assigned]
  | flag isFlag =>
    rw [isFlag] at assigned
    cases rest with
    | nil =>
      simp [readWords, optionName?_dashes, assigned]
    | cons w rest =>
      -- the reader takes the option for a flag because the next word starts an option
      rw [List.singleton_append, readWords, optionName?_dashes]
      simp [starts w rfl, assigned]

/-- Puts a level under its option. -/
def enter (a : Assignment) (l : Level) : Assignment := a.insert l.option l

/-- A level that its name stands for is entered under its option. -/
theorem assign_of_levelOf (named : s.WellNamed) {d : Dimension}
    (hd : s.dimension? l.option = some d) (h : levelOf d l.option l.name = .ok l)
    (a : Assignment) : assign s a l.option l.name = .ok (enter a l) := by
  simp [assign, hd, h, named _ d hd, enter]

/-- **All levels are read,** one after the other. -/
theorem readWords_levels (spells : ∀ l ∈ ls, Spells l (spell l))
    (assigned : ∀ l ∈ ls, ∀ a, assign s a l.option l.name = .ok (enter a l)) (a : Assignment) :
    readWords s a (ls.flatMap spell) = .ok (ls.foldl enter a) := by
  induction ls generalizing a with
  | nil => rw [List.flatMap_nil, readWords]; rfl
  | cons l ls ih =>
    have later := ih (fun l' hl' => spells l' (List.mem_cons_of_mem l hl'))
      fun l' hl' => assigned l' (List.mem_cons_of_mem l hl')
    have starts : Starts (ls.flatMap spell) := by
      cases ls with
      | nil => exact fun w hw => absurd hw (by simp)
      | cons l' ls =>
        exact (spells l' (List.mem_cons_of_mem l List.mem_cons_self)).starts _
    rw [List.flatMap_cons, readWords_spells (spells l List.mem_cons_self) starts
      (assigned l List.mem_cons_self a), later, List.foldl_cons]

/-- Entering levels of a configuration gives their options the levels that they have in it. -/
theorem get?_foldl_enter (own : ∀ l ∈ ls, c.get? l.option = some l) (a : Assignment) (k : String) :
    (ls.foldl enter a).get? k = if ∃ l ∈ ls, l.option = k then c.get? k else a.get? k := by
  induction ls generalizing a with
  | nil => simp
  | cons l ls ih =>
    rw [List.foldl_cons, ih fun l' hl' => own l' (List.mem_cons_of_mem l hl')]
    by_cases later : ∃ l' ∈ ls, l'.option = k
    · rw [if_pos later, if_pos (later.imp fun _ h => ⟨List.mem_cons_of_mem l h.1, h.2⟩)]
    · rw [if_neg later]
      by_cases here : l.option = k
      · subst here
        rw [if_pos ⟨l, List.mem_cons_self, rfl⟩, own l List.mem_cons_self, enter,
          Table.get?_insert_self]
      · have absent : ¬ ∃ l' ∈ l :: ls, l'.option = k := by
          rintro ⟨l', hl', same⟩
          rcases List.mem_cons.mp hl' with rfl | hl'
          · exact here same
          · exact later ⟨l', hl', same⟩
        rw [if_neg absent, enter, Table.get?_insert_of_ne _ _ (Ne.symm here)]

/-- Completing an assignment keeps its levels. -/
theorem kept_of_complete {k : String} (h : complete s given = .ok c) (hl : given.get? k = some l) :
    c.get? k = some l := by
  unfold complete at h
  obtain ⟨full, hfull, h⟩ := (bind_eq_ok_iff _ _ _).mp h
  obtain rfl := Except.ok.inj h
  refine invariant_of_foldlM (p := fun a : Assignment => a.get? k = some l) ?_ hl hfull
  intro d _ a next hl hnext
  split at hnext
  · obtain rfl := Except.ok.inj hnext
    exact hl
  · rename_i absent
    obtain ⟨m, -, hnext⟩ := (bind_eq_ok_iff _ _ _).mp hnext
    obtain rfl := Except.ok.inj hnext
    have other : k ≠ d.name := by
      rintro rfl
      exact absent (by rw [Table.contains, hl]; rfl)
    rw [Table.get?_insert_of_ne _ _ other, hl]

/-- **An assignment that leaves out defaults is completed** to the configuration that it is taken
from. -/
theorem complete_of_agrees {text : String} (accepted : Space.ofText text = .ok s)
    (total : s.Total c.assignment) (agrees : ∀ k l, given.get? k = some l → c.get? k = some l)
    (omitted : ∀ k d l, s.dimension? k = some d → c.get? k = some l → given.get? k = none →
      d.defaultLevel = .ok l) :
    complete s given = .ok { c with investigated := none } := by
  have named := Space.wellNamed_of_text accepted
  obtain ⟨c', hc'⟩ := complete_defined (fun k d hd => Space.exists_defaultLevel accepted hd) given
  have within : s.Within given := by
    intro k hk
    obtain ⟨l, hl⟩ := Option.isSome_iff_exists.mp hk
    rw [← total k]
    exact Option.isSome_iff_exists.mpr ⟨l, agrees k l hl⟩
  have total' := total_complete named within hc'
  have same : c'.assignment = c.assignment := by
    refine Table.ext_get? fun k => ?_
    cases hd : s.dimension? k with
    | none =>
      have absent := total k
      have absent' := total' k
      rw [hd, Option.isSome_none, Option.isSome_eq_false_iff, Option.isNone_iff_eq_none]
        at absent absent'
      rw [absent, absent']
    | some d =>
      have there := total k
      have there' := total' k
      rw [hd, Option.isSome_some, Option.isSome_iff_exists] at there there'
      obtain ⟨l, hl⟩ := there
      obtain ⟨l', hl'⟩ := there'
      rw [hl, hl']
      cases hg : given.get? k with
      | some m =>
        have isLevel : some m = some l := (agrees k m hg).symm.trans hl
        have isLevel' : some m = some l' := (kept_of_complete hc' hg).symm.trans hl'
        exact isLevel'.symm.trans isLevel
      | none =>
        have default' := (level_of_complete named hc' hd hl').resolve_left (by rw [hg]; simp)
        have default := omitted k d l hd hl hg
        rw [Except.ok.inj (default'.symm.trans default)]
  have start := investigated_complete hc'
  rw [hc']
  exact congrArg Except.ok (by cases c'; simp_all)

/-! ### The two texts of a configuration -/

/-- Each option of a space has a level, which its name stands for; an option of integers has no
placeholder. -/
structure Readable (s : Space) (c : Configuration) : Prop where
  total : s.Total c.assignment
  named : ∀ k d l, s.dimension? k = some d → c.get? k = some l → d.level l.name = .ok l
  plain : ∀ k d l, s.dimension? k = some d → d.isInteger = true → c.get? k = some l →
    l.isPlaceholder = false

variable {text : String}

/-- A level stands under its own option, and its name can be read. -/
theorem Readable.level (readable : Readable s c) (accepted : Space.ofText text = .ok s)
    (legible : s.Legible) {k : String} (h : c.get? k = some l) :
    l.option = k ∧ ∃ d, s.dimension? k = some d ∧ levelOf d k l.name = .ok l ∧
      Text.IsWord l.name ∧ optionName? l.name = none := by
  have known : (s.dimension? k).isSome = true := by
    rw [← readable.total k]
    exact Option.isSome_iff_exists.mpr ⟨l, h⟩
  obtain ⟨d, hd⟩ := Option.isSome_iff_exists.mp known
  have named := readable.named k d l hd h
  obtain ⟨-, -, e, -, -, built⟩ := Space.exists_build accepted hd
  have own := (Dimension.level_ok (Space.wellFormed_of_text accepted hd)
    (OptionEntry.bounds_of_build built) named).1
  refine ⟨own.trans (Space.wellNamed_of_text accepted k d hd), d, hd, ?_,
    legible.level accepted hd named⟩
  have plain := readable.plain k d l hd
  unfold levelOf
  rw [named]
  by_cases integer : d.isInteger = true <;> simp_all

theorem mem_levels_iff (c : Configuration) (l : Level) :
    l ∈ c.levels ↔ ∃ k, c.get? k = some l := by
  simp only [levels, Table.values, List.mem_map, get?, Table.get?_eq_some_iff]
  constructor
  · rintro ⟨e, he, rfl⟩
    exact ⟨e.1, he⟩
  · rintro ⟨k, hk⟩
    exact ⟨(k, l), hk, rfl⟩

/-- **A row of levels is read back** to their configuration, if it leaves out defaults alone. -/
theorem parse_of_spelled (accepted : Space.ofText text = .ok s) (legible : s.Legible)
    (readable : Readable s c) (held : ∀ l ∈ ls, l ∈ c.levels)
    (omitted : ∀ l ∈ c.levels, l ∉ ls → isDefault s l = true)
    (spells : ∀ l ∈ ls, Spells l (spell l)) {row : String}
    (words : Text.words row = ls.flatMap spell) :
    parse s row = .ok { c with investigated := none } := by
  have own : ∀ l ∈ ls, c.get? l.option = some l := by
    intro l hl
    obtain ⟨k, hk⟩ := (mem_levels_iff c l).mp (held l hl)
    obtain ⟨rfl, -⟩ := readable.level accepted legible hk
    exact hk
  have assigned : ∀ l ∈ ls, ∀ a, assign s a l.option l.name = .ok (enter a l) := by
    intro l hl a
    obtain ⟨-, d, hd, named, -⟩ := readable.level accepted legible (own l hl)
    exact assign_of_levelOf (Space.wellNamed_of_text accepted) hd named a
  have found := get?_foldl_enter own .empty
  have completed : complete s (ls.foldl enter .empty) = .ok { c with investigated := none } := by
    refine complete_of_agrees accepted readable.total (fun k l hl => ?_) fun k d l hd hl left => ?_
    · rw [found] at hl
      split at hl
      · exact hl
      · cases hl
    · obtain ⟨rfl, -⟩ := readable.level accepted legible hl
      have absent : l ∉ ls := by
        intro hm
        rw [found, if_pos ⟨l, hm, rfl⟩, hl] at left
        cases left
      have default := omitted l ((mem_levels_iff c l).mpr ⟨_, hl⟩) absent
      rw [isDefault, hd, beq_iff_eq] at default
      exact (d.defaultLevel_eq_ok_iff l).mpr
        ⟨(Space.wellNamed_of_text accepted _ d hd).symm, default⟩
  refine (bind_eq_ok_iff _ _ _).mpr ⟨_, words ▸ readWords_levels spells assigned .empty, ?_⟩
  rw [completed]
  rfl

theorem words_text (accepted : Space.ofText text = .ok s) (legible : s.Legible)
    (readable : Readable s c) :
    Text.words c.text = c.levels.flatMap fun l => ["--" ++ l.option, l.name] := by
  rw [Configuration.text, Text.words_intercalate, levels, Table.values, List.flatMap_map,
    List.flatMap_map]
  refine List.flatMap_congr fun e he => ?_
  have hl : c.get? e.1 = some e.2 := (Table.get?_eq_some_iff _).mpr he
  obtain ⟨own, d, hd, -, word, -⟩ := readable.level accepted legible hl
  have pair : "--" ++ e.1 ++ " " ++ e.2.name = " ".intercalate ["--" ++ e.1, e.2.name] := by
    simp [String.intercalate_cons_cons]
  rw [pair, Text.words_unwords, own]
  simp only [List.mem_cons, List.not_mem_nil, or_false, forall_eq_or_imp, forall_eq]
  exact ⟨legible.isWord_option hd, word⟩

theorem spells_argumentsOf (named : optionName? l.name = none) : Spells l (argumentsOf l) := by
  unfold argumentsOf
  split
  · rename_i isFlag
    exact .flag isFlag
  · exact .value named

/-- **A configuration is read back from both of its texts.** On a space whose names can be told
apart in a text, take a configuration that gives each option, and nothing else, a level that its
name stands for, and no placeholder to an option of integers. Its full text and its arguments, put
together with blanks, are both read as the configuration, with no option under investigation. -/
theorem parse_text_and_arguments (accepted : Space.ofText text = .ok s) (legible : s.Legible)
    (readable : Readable s c) :
    parse s c.text = .ok { c with investigated := none } ∧
      parse s (" ".intercalate (c.arguments s)) = .ok { c with investigated := none } := by
  have named : ∀ l ∈ c.levels, optionName? l.name = none := by
    intro l hl
    obtain ⟨k, hk⟩ := (mem_levels_iff c l).mp hl
    obtain ⟨-, -, -, -, -, named⟩ := readable.level accepted legible hk
    exact named
  constructor
  · exact parse_of_spelled accepted legible readable (fun _ hl => hl)
      (fun _ hl left => absurd hl left) (fun l hl => .value (named l hl))
      (words_text accepted legible readable)
  · have listed : ∀ l ∈ c.levels.filter fun l => !isDefault s l, l ∈ c.levels :=
      fun l hl => (List.mem_filter.mp hl).1
    refine parse_of_spelled accepted legible readable listed (fun l hl left => ?_)
      (fun l hl => spells_argumentsOf (named l (listed l hl))) (Text.words_unwords fun w hw => ?_)
    · simpa [hl] using left
    · obtain ⟨l, hl, hw⟩ := List.mem_flatMap.mp hw
      obtain ⟨k, hk⟩ := (mem_levels_iff c l).mp (listed l hl)
      obtain ⟨rfl, d, hd, -, word, -⟩ := readable.level accepted legible hk
      rcases List.mem_cons.mp hw with rfl | hw
      · exact legible.isWord_option hd
      · split at hw
        · cases hw
        · obtain rfl := List.mem_singleton.mp hw
          exact word

/-- The text of an artifact with a flag and an option of integers. -/
def dialsText : String :=
  "\x7b\"name\":\"t\",\"options\":[\x7b\"name\":\"flag\",\"type\":\"enum\"," ++
    "\"levels\":[\"TRUE\",\"FALSE\"],\"default\":\"FALSE\"\x7d," ++
    "\x7b\"name\":\"n\",\"type\":\"integer\"," ++
    "\"minValue\":-9,\"maxValue\":9,\"default\":0\x7d]\x7d"

/-- The options that the text describes. -/
def dialsEntries : List OptionEntry :=
  [⟨"flag", false, ["TRUE", "FALSE"], none, none, some "FALSE", [], []⟩,
    ⟨"n", true, [], some (-9), some 9, some "0", [], []⟩]

/-- The space of these options. -/
def dialsSpace : Space where
  name := "t"
  dimensions := .ofList
    [("flag", ⟨"flag", false, none, none, [], some "FALSE", ["TRUE", "FALSE"], .empty, .empty⟩),
      ("n", ⟨"n", true, some (-9), some 9, [], some "0", ["0"], .empty, .empty⟩)]

theorem ofText_dialsText : Space.ofText dialsText = .ok dialsSpace :=
  (Space.ofText_eq_ok_iff _ _).mpr ⟨⟨"t", dialsEntries⟩, by decide +kernel⟩

theorem legible_dialsSpace : dialsSpace.Legible := by
  have names : ∀ e ∈ dialsSpace.dimensions.entries, e.1.toList.all (!Text.isBlank ·) = true ∧
      ∀ name ∈ e.2.levels, Text.IsWord name ∧ ¬ ['-', '-'] <+: name.toList := by
    decide +kernel
  have entry (k : String) (d : Dimension) (hd : dialsSpace.dimension? k = some d) :=
    names (k, d) ((Table.get?_eq_some_iff _).mp hd)
  exact
    { options := fun k d hd => by simpa using (entry k d hd).1
      levels := fun k d hd => (entry k d hd).2 }

/-- The flag is on and the integer is negative. -/
def dials : Configuration :=
  ⟨.ofList [("flag", ⟨"flag", "TRUE"⟩), ("n", ⟨"n", "-4"⟩)], some "n"⟩

theorem readable_dials : Readable dialsSpace dials := by
  have ⟨keys, entries⟩ : dials.assignment.keys = dialsSpace.dimensions.keys ∧
      ∀ e ∈ dialsSpace.dimensions.entries, ∀ e' ∈ dials.assignment.entries,
        e.1 = e'.1 → e.2.level e'.2.name = .ok e'.2 ∧ e'.2.isPlaceholder = false := by
    decide +kernel
  have both (k : String) (d : Dimension) (l : Level) (hd : dialsSpace.dimension? k = some d)
      (hl : dials.get? k = some l) : d.level l.name = .ok l ∧ l.isPlaceholder = false :=
    entries (k, d) ((Table.get?_eq_some_iff _).mp hd) (k, l) ((Table.get?_eq_some_iff _).mp hl) rfl
  exact
    { total := (dialsSpace.total_iff_keys _).mpr keys
      named := fun k d l hd hl => (both k d l hd hl).1
      plain := fun k d l hd _ hl => (both k d l hd hl).2 }

theorem parse_text_and_arguments_dials :
    dials.text = "--flag TRUE --n -4" ∧ dials.arguments dialsSpace = ["--flag", "--n", "-4"] ∧
      parse dialsSpace "--flag TRUE --n -4" = .ok { dials with investigated := none } ∧
      parse dialsSpace "--flag --n -4" = .ok { dials with investigated := none } := by
  have ⟨text, arguments, joined⟩ : dials.text = "--flag TRUE --n -4" ∧
      dials.arguments dialsSpace = ["--flag", "--n", "-4"] ∧
      " ".intercalate ["--flag", "--n", "-4"] = "--flag --n -4" := by decide +kernel
  obtain ⟨full, short⟩ :=
    parse_text_and_arguments ofText_dialsText legible_dialsSpace readable_dials
  rw [text] at full
  rw [arguments, joined] at short
  exact ⟨text, arguments, full, short⟩

end Configuration
end OrderTrials
