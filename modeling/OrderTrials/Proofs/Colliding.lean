import OrderTrials.Proofs.Placing
import OrderTrials.Proofs.Rendering
/-
# Configurations with one text

The full text of a configuration puts no quotes around its levels. What ends a level in it is the
mark of the next option, so two texts of one space are read side by side, level by level: as long as
the levels agree the rest agrees as well, and where they do not, one level with the mark of the next
option behind it begins the other (`Configuration.agree_or_swallows`). A level can only be swallowed
in this way by one that has a blank in it, and an artifact may have such levels. Then a part of one
level may move to the next and leave the text as it is (`Configuration.text_of_moved`).

Key definitions: `Configuration.mark`, `Configuration.Swallows`, `Configuration.Confuses`.
Key theorems: `Configuration.agree_or_swallows`, `Configuration.text_of_moved`,
`Configuration.text_tells`, `Configuration.text_confuses_knots`.
-/

namespace OrderTrials

namespace Configuration

/-! ### Texts of the same options -/

/-- What stands in a full text between the level before an option and the level of the option. -/
def mark (option : String) : List Char := (" --" ++ option ++ " ").toList

/-- The characters of some entries in a full text, each after a blank. -/
def spelled (es : List (String × Level)) : List Char :=
  es.flatMap fun e => mark e.1 ++ e.2.name.toList

/-- With the next option behind it, one level begins another. -/
def Swallows (next v w : String) : Prop :=
  v ≠ w ∧ v.toList ++ mark next <+: w.toList ++ mark next

/-- Two configurations give an option different levels, one of which swallows the other. -/
def Confuses (s : Space) (c c' : Configuration) : Prop :=
  ∃ k next l l', [k, next] <:+: s.dimensions.keys ∧ c.get? k = some l ∧ c'.get? k = some l' ∧
    (Swallows next l.name l'.name ∨ Swallows next l'.name l.name)

theorem mark_eq_cons (option : String) : mark option = ' ' :: ("--" ++ option ++ " ").toList := by
  have blank : " --".toList = ' ' :: "--".toList := rfl
  simp only [mark, String.toList_append, blank, List.cons_append]

/-- A level is swallowed by one that goes on with a blank. -/
theorem Swallows.blank {next v w : String} (h : Swallows next v w) :
    v.toList ++ [' '] <+: w.toList := by
  obtain ⟨differ, swallowed⟩ := h
  have longer : v.toList.length < w.toList.length := by
    have bound := swallowed.length_le
    rw [List.length_append, List.length_append] at bound
    refine Nat.lt_of_le_of_ne (by omega) fun same => differ (String.toList_inj.mp ?_)
    obtain ⟨r, hr⟩ := swallowed
    rw [List.append_assoc] at hr
    exact (List.append_inj hr same).1
  have begins : v.toList ++ [' '] <+: v.toList ++ mark next := by
    rw [mark_eq_cons]
    exact (List.prefix_append_right_inj _).mpr (List.cons_prefix_cons.mpr ⟨rfl, List.nil_prefix⟩)
  refine List.prefix_of_prefix_length_le (begins.trans swallowed) (List.prefix_append _ _) ?_
  rw [List.length_append]
  exact longer

theorem spelled_cons (k : String) (l : Level) (es : List (String × Level)) :
    spelled ((k, l) :: es) = mark k ++ (l.name.toList ++ spelled es) := by
  rw [spelled, List.flatMap_cons, List.append_assoc]
  rfl

/-- Texts with blanks between them have a blank before each of them, except for the first. -/
theorem cons_intercalate (p : List Char) (ps : List (List Char)) :
    ' ' :: [' '].intercalate (p :: ps) = (p :: ps).flatMap (' ' :: ·) := by
  induction ps generalizing p with
  | nil => simp
  | cons q ps ih =>
    rw [List.intercalate_cons_cons, List.flatMap_cons, ← ih q]
    simp

/-- The full text is spelled without the blank in front of it. -/
theorem spelled_entries (c : Configuration) (nonempty : c.assignment.entries ≠ []) :
    ' ' :: c.text.toList = spelled c.assignment.entries := by
  have blank : " ".toList = [' '] := rfl
  have piece (e : String × Level) :
      ' ' :: ("--" ++ e.1 ++ " " ++ e.2.name).toList = mark e.1 ++ e.2.name.toList := by
    rw [mark_eq_cons, String.toList_append, List.cons_append]
  obtain ⟨e, es, entries⟩ := List.exists_cons_of_ne_nil nonempty
  rw [text, String.toList_intercalate, blank, entries, List.map_cons, List.map_cons,
    cons_intercalate, ← List.map_cons, List.flatMap_map, spelled, List.flatMap_cons,
    List.flatMap_cons, piece, List.flatMap_map]
  exact congrArg _ (List.flatMap_congr fun e _ => piece e)

/-- **Two rows of levels that are spelled alike** agree, or one level swallows another. -/
theorem agree_or_swallows {es es' : List (String × Level)} (keys : es.map (·.1) = es'.map (·.1))
    (same : spelled es = spelled es') :
    es.map (fun e => (e.1, e.2.name)) = es'.map (fun e => (e.1, e.2.name)) ∨
      ∃ k next l l', [k, next] <:+: es.map (·.1) ∧ (k, l) ∈ es ∧ (k, l') ∈ es' ∧
        (Swallows next l.name l'.name ∨ Swallows next l'.name l.name) := by
  induction es generalizing es' with
  | nil =>
    obtain rfl := List.map_eq_nil_iff.mp keys.symm
    exact .inl rfl
  | cons e r ih =>
    obtain ⟨k, l⟩ := e
    obtain ⟨⟨k', l'⟩, r', rfl, own, rest⟩ := List.map_eq_cons_iff.mp keys.symm
    obtain rfl : k' = k := own
    rw [spelled_cons, spelled_cons, List.append_cancel_left_eq] at same
    by_cases agree : l.name = l'.name
    · rw [agree, List.append_cancel_left_eq] at same
      rcases ih rest.symm same with names | ⟨k, next, m, m', next_, hm, hm', swallows⟩
      · exact .inl (by rw [List.map_cons, List.map_cons, names, agree])
      · exact .inr ⟨k, next, m, m', next_.trans (List.suffix_cons _ _).isInfix,
          List.mem_cons_of_mem _ hm, List.mem_cons_of_mem _ hm', swallows⟩
    · -- the last level has nothing behind it; any other has the mark of the next option
      cases r with
      | nil =>
        obtain rfl := List.map_eq_nil_iff.mp rest
        refine absurd (String.toList_inj.mp ?_) agree
        simpa [spelled] using same
      | cons e t =>
        obtain ⟨next, m⟩ := e
        obtain ⟨⟨next', m'⟩, t', rfl, follows, -⟩ := List.map_eq_cons_iff.mp rest
        obtain rfl : next' = next := follows
        have marked (l m : Level) (t : List (String × Level)) :
            l.name.toList ++ mark next' <+: l.name.toList ++ spelled ((next', m) :: t) := by
          rw [spelled_cons, ← List.append_assoc]
          exact List.prefix_append _ _
        refine .inr ⟨k', next', l, l', (List.prefix_append [k', next'] _).isInfix,
          List.mem_cons_self, List.mem_cons_self, ?_⟩
        rcases List.prefix_or_prefix_of_prefix (marked l m t) (same ▸ marked l' m' t') with
          begins | begins
        · exact .inl ⟨agree, begins⟩
        · exact .inr ⟨Ne.symm agree, begins⟩

/-- **A part of a level moves to the next level** with the mark between them, and the text stays. -/
theorem text_of_moved {before after : List (String × Level)} {k next u v w : String}
    {c c' : Configuration}
    (hc : c.assignment.entries = before ++
      (k, ⟨k, u ++ " --" ++ next ++ " " ++ v⟩) :: (next, ⟨next, w⟩) :: after)
    (hc' : c'.assignment.entries = before ++
      (k, ⟨k, u⟩) :: (next, ⟨next, v ++ " --" ++ next ++ " " ++ w⟩) :: after) :
    c.text = c'.text := by
  have spell : spelled c.assignment.entries = spelled c'.assignment.entries := by
    rw [hc, hc']
    simp [spelled, mark]
  rw [← spelled_entries c (by simp [hc]), ← spelled_entries c' (by simp [hc'])] at spell
  exact String.toList_inj.mp (List.cons.inj spell).2

variable {s : Space} {c c' : Configuration}

/-- Levels with no blank are told apart. -/
theorem not_confuses (plain : ∀ l ∈ c.levels ++ c'.levels, ' ' ∉ l.name.toList) :
    ¬ Confuses s c c' := by
  have blank {v w next : String} (h : Swallows next v w) : ' ' ∈ w.toList :=
    h.blank.subset (List.mem_append_right _ List.mem_cons_self)
  rintro ⟨k, next, l, l', -, hl, hl', swallows | swallows⟩
  · exact plain l' (List.mem_append_right _ ((mem_levels_iff c' l').mpr ⟨k, hl'⟩)) (blank swallows)
  · exact plain l (List.mem_append_left _ ((mem_levels_iff c l).mpr ⟨k, hl⟩)) (blank swallows)

/-- Configurations of the same options with one text have levels that are spelled alike. -/
theorem spelled_eq_of_text (keys : c.assignment.keys = c'.assignment.keys)
    (same : c.text = c'.text) :
    spelled c.assignment.entries = spelled c'.assignment.entries := by
  by_cases nonempty : c.assignment.entries = []
  · have nonempty' : c'.assignment.entries = [] := by
      rw [← List.map_eq_nil_iff, ← Table.keys, ← keys, Table.keys, nonempty]
      rfl
    rw [nonempty, nonempty']
  · have nonempty' : c'.assignment.entries ≠ [] := by
      rw [Ne, ← List.map_eq_nil_iff, ← Table.keys, ← keys, Table.keys, List.map_eq_nil_iff]
      exact nonempty
    rw [← spelled_entries c nonempty, ← spelled_entries c' nonempty', same]

/-- Levels of the same names under the same options are the same levels. -/
theorem assignment_eq_of_names (own : ∀ k l, c.get? k = some l → l.option = k)
    (own' : ∀ k l, c'.get? k = some l → l.option = k) (names : c.levelNames = c'.levelNames) :
    c.assignment = c'.assignment := by
  refine Table.ext_get? fun k => ?_
  change c.get? k = c'.get? k
  have named : (c.get? k).map (·.name) = (c'.get? k).map (·.name) := by
    rw [get?, get?, ← Table.get?_map, ← Table.get?_map]
    exact congrArg (Table.get? · k) names
  cases hl : c.get? k with
  | none =>
    rw [hl] at named
    exact (Option.map_eq_none_iff.mp named.symm).symm
  | some l =>
    rw [hl] at named
    obtain ⟨l', hl', name⟩ := Option.map_eq_some_iff.mp named.symm
    have option := (own k l hl).trans (own' k l' hl').symm
    rw [hl']
    cases l
    cases l'
    simp_all

/-- Two configurations of the same options with one text are equal, or they are confused. -/
theorem eq_or_confuses (total : s.Total c.assignment) (total' : s.Total c'.assignment)
    (own : ∀ k l, c.get? k = some l → l.option = k)
    (own' : ∀ k l, c'.get? k = some l → l.option = k) (same : c.text = c'.text) :
    c.assignment = c'.assignment ∨ Confuses s c c' := by
  have keys := (s.total_iff_keys _).mp total
  have shared := keys.trans ((s.total_iff_keys _).mp total').symm
  rcases agree_or_swallows shared (spelled_eq_of_text shared same) with
    names | ⟨k, next, l, l', follows, hl, hl', swallows⟩
  · refine .inl (assignment_eq_of_names own own' ?_)
    rw [levelNames, levelNames, Table.map, Table.map]
    simp only [names]
  · exact .inr ⟨k, next, l, l', keys ▸ follows, (Table.get?_eq_some_iff _).mpr hl,
      (Table.get?_eq_some_iff _).mpr hl', swallows⟩

/-- **What a text tells.** Take two configurations that give levels to the options of a space and to
nothing else. If their full texts are equal, the levels are equal, or at two options that follow one
another a level of the first is swallowed by the other level of it; the latter needs a blank in a
level. So two jobs on one target have one output only if their levels are equal or confused in this
way, or if different texts have one digest. -/
theorem text_tells (total : s.Total c.assignment) (total' : s.Total c'.assignment)
    (own : ∀ k l, c.get? k = some l → l.option = k)
    (own' : ∀ k l, c'.get? k = some l → l.option = k) :
    (c.text = c'.text → c.assignment = c'.assignment ∨ Confuses s c c') ∧
      ((∀ l ∈ c.levels ++ c'.levels, ' ' ∉ l.name.toList) → ¬ Confuses s c c') ∧
      ∀ (t : Target) (folder : String),
        (⟨c, t⟩ : Job).outputPath folder = (⟨c', t⟩ : Job).outputPath folder →
        c.assignment = c'.assignment ∨ Confuses s c c' ∨
          c.text ≠ c'.text ∧ Digest.hex c.text = Digest.hex c'.text := by
  refine ⟨eq_or_confuses total total' own own', not_confuses, fun t folder place => ?_⟩
  have digests := (Job.outputPath_eq_iff c c' t folder).mp place
  by_cases same : c.text = c'.text
  · exact (eq_or_confuses total total' own own' same).imp_right .inl
  · exact .inr (.inr ⟨same, digests⟩)

/-- The flag is on and the integer is another one. -/
def dialsTurned : Configuration :=
  ⟨.ofList [("flag", ⟨"flag", "TRUE"⟩), ("n", ⟨"n", "5"⟩)], none⟩

theorem text_tells_dials :
    dials.text ≠ dialsTurned.text ∧ ¬ Confuses dialsSpace dials dialsTurned := by
  have ⟨turned, entries, plain, differ⟩ :
      dialsTurned.assignment.keys = dialsSpace.dimensions.keys ∧
      (∀ c ∈ [dials, dialsTurned], ∀ e ∈ c.assignment.entries, e.2.option = e.1) ∧
      (∀ l ∈ dials.levels ++ dialsTurned.levels, ' ' ∉ l.name.toList) ∧
      dials.assignment ≠ dialsTurned.assignment := by decide +kernel
  have own (c : Configuration) (hc : c ∈ [dials, dialsTurned]) (k : String) (l : Level)
      (hl : c.get? k = some l) : l.option = k :=
    entries c hc (k, l) ((Table.get?_eq_some_iff _).mp hl)
  obtain ⟨tells, apart, -⟩ := text_tells readable_dials.total
    ((dialsSpace.total_iff_keys _).mpr turned) (own dials List.mem_cons_self)
    (own dialsTurned (List.mem_cons_of_mem _ List.mem_cons_self))
  refine ⟨fun same => ?_, apart plain⟩
  rcases tells same with equal | confused
  · exact differ equal
  · exact apart plain confused

/-- The text of an artifact with two options, each with a level that has the mark of the second. -/
def knotsText : String :=
  "\x7b\"name\":\"t\",\"options\":[\x7b\"name\":\"a\",\"type\":\"enum\"," ++
    "\"levels\":[\"x\",\"x --b y\"],\"default\":\"x\"\x7d," ++
    "\x7b\"name\":\"b\",\"type\":\"enum\"," ++
    "\"levels\":[\"z\",\"y --b z\"],\"default\":\"z\"\x7d]\x7d"

/-- The options that the text describes. -/
def knotsEntries : List OptionEntry :=
  [⟨"a", false, ["x", "x --b y"], none, none, some "x", [], []⟩,
    ⟨"b", false, ["z", "y --b z"], none, none, some "z", [], []⟩]

/-- The space of these options. -/
def knotsSpace : Space where
  name := "t"
  dimensions := .ofList
    [("a", ⟨"a", false, none, none, [], some "x", ["x", "x --b y"], .empty, .empty⟩),
      ("b", ⟨"b", false, none, none, [], some "z", ["z", "y --b z"], .empty, .empty⟩)]

/-- The mark of the second option is in the level of the first. -/
def knotsFirst : Configuration := ⟨.ofList [("a", ⟨"a", "x --b y"⟩), ("b", ⟨"b", "z"⟩)], none⟩

/-- The mark of the second option is in its own level. -/
def knotsSecond : Configuration := ⟨.ofList [("a", ⟨"a", "x"⟩), ("b", ⟨"b", "y --b z"⟩)], none⟩

/-- **Two configurations with one text.** Their levels are registered levels of the two options of
an accepted artifact, and they are different. Their outputs have one place. -/
theorem text_confuses_knots :
    Space.ofText knotsText = .ok knotsSpace ∧
      knotsSpace.Total knotsFirst.assignment ∧ knotsSpace.Total knotsSecond.assignment ∧
      (∀ d ∈ knotsSpace.dimensions.entries, ∀ c ∈ [knotsFirst, knotsSecond],
        ∀ l ∈ c.get? d.1, l.option = d.1 ∧ l.name ∈ d.2.levels) ∧
      knotsFirst.assignment ≠ knotsSecond.assignment ∧ knotsFirst.text = knotsSecond.text ∧
      (⟨knotsFirst, ⟨"p"⟩⟩ : Job).outputPath "out" =
        (⟨knotsSecond, ⟨"p"⟩⟩ : Job).outputPath "out" := by
  have ⟨first, second⟩ :
      knotsFirst.assignment.entries = [] ++
        ("a", ⟨"a", "x" ++ " --" ++ "b" ++ " " ++ "y"⟩) :: ("b", ⟨"b", "z"⟩) :: [] ∧
      knotsSecond.assignment.entries = [] ++
        ("a", ⟨"a", "x"⟩) :: ("b", ⟨"b", "y" ++ " --" ++ "b" ++ " " ++ "z"⟩) :: [] := by
    decide +kernel
  have same : knotsFirst.text = knotsSecond.text := text_of_moved first second
  have ⟨accepted, keys, keys', registered, differ⟩ :
      (Artifact.read? knotsText = some ⟨"t", knotsEntries⟩ ∧
        Artifact.build ⟨"t", knotsEntries⟩ = .ok knotsSpace) ∧
      knotsFirst.assignment.keys = knotsSpace.dimensions.keys ∧
      knotsSecond.assignment.keys = knotsSpace.dimensions.keys ∧
      (∀ d ∈ knotsSpace.dimensions.entries, ∀ c ∈ [knotsFirst, knotsSecond],
        ∀ l ∈ c.get? d.1, l.option = d.1 ∧ l.name ∈ d.2.levels) ∧
      knotsFirst.assignment ≠ knotsSecond.assignment := by decide +kernel
  exact ⟨(Space.ofText_eq_ok_iff _ _).mpr ⟨_, accepted⟩, (knotsSpace.total_iff_keys _).mpr keys,
    (knotsSpace.total_iff_keys _).mpr keys', registered, differ, same,
    (Job.outputPath_eq_iff _ _ _ _).mpr (congrArg Digest.hex same)⟩

end Configuration
end OrderTrials
