import OrderTrials.Proofs.Recording
/-
# Where records lie

The path of a record is the root of the store with three texts joined to it, of which the target and
the configurations have been turned into names before (`Target.leads_slug`,
`RecordStore.leads_recordName`), and the option has not. A relative option adds its own steps to those
of the root (`RecordStore.pathOf_relative`), and an absolute one replaces the root
(`RecordStore.isAbsolute_pathOf`). So a record lies three names below every root if and only if the
option is relative and one name is all that leads on in it. Options that are such names, as they
stand, can be read off the path again.

Key definitions: `Path.Below`, `Path.Same`.
Key theorems: `RecordStore.isAbsolute_pathOf`, `RecordStore.pathOf_relative`,
`RecordStore.pathOf_below`, `RecordStore.pathOf_escapes`.
-/

namespace OrderTrials

/-! ### Paths below a root -/

namespace Path

/-- A path is three names below a root: it starts where the root starts, goes on with the steps of the
root, and then there are three names. -/
def Below (root path : String) : Prop :=
  isAbsolute path = isAbsolute root ∧
    ∃ a b c, Leads a ∧ Leads b ∧ Leads c ∧ steps path = steps root ++ [a, b, c]

/-- Two texts are the same path: they start at the same place, and the same steps lead on. -/
def Same (p q : String) : Prop := isAbsolute p = isAbsolute q ∧ steps p = steps q

end Path

namespace RecordStore

open Path

variable {s : RecordStore} {v v' : Violation}

/-! ### Paths of records -/

theorem isAbsolute_pathOf (s : RecordStore) (v : Violation) :
    isAbsolute (s.pathOf v) = (isAbsolute v.option || isAbsolute s.root) := by
  rw [pathOf_eq, isAbsolute_join _ (leads_recordName v).isAbsolute, folderOf,
    isAbsolute_join _ v.target.leads_slug.isAbsolute]
  cases option : isAbsolute v.option with
  | true => rw [join_of_isAbsolute _ option, option, Bool.true_or]
  | false => rw [isAbsolute_join _ option, Bool.false_or]

/-- **A relative option** adds its steps to those of the root. -/
theorem pathOf_relative (s : RecordStore) (relative : isAbsolute v.option = false) :
    steps (s.pathOf v) =
      steps s.root ++ (steps v.option ++ [v.target.slug.toList, (recordName v).toList]) := by
  rw [pathOf_eq, steps_join _ (leads_recordName v), folderOf, steps_join _ v.target.leads_slug,
    steps_join_of_relative _ relative, List.append_assoc, List.append_assoc]
  rfl

theorem below_iff (s : RecordStore) (relative : isAbsolute v.option = false) :
    Below s.root (s.pathOf v) ↔ ∃ name, Leads name ∧ steps v.option = [name] := by
  have start : isAbsolute (s.pathOf v) = isAbsolute s.root := by
    rw [isAbsolute_pathOf, relative, Bool.false_or]
  constructor
  · rintro ⟨-, a, b, c, leads, -, -, same⟩
    rw [pathOf_relative s relative] at same
    have rest : steps v.option ++ [v.target.slug.toList, (recordName v).toList] =
        [a] ++ [b, c] := List.append_cancel_left same
    exact ⟨a, leads, (List.append_inj' rest (by simp)).1⟩
  · rintro ⟨name, leads, alone⟩
    refine ⟨start, name, _, _, leads, v.target.leads_slug, leads_recordName v, ?_⟩
    rw [pathOf_relative s relative, alone]
    rfl

/-- **Where records lie.** The record of a pair lies three names below every root if and only if its
option is a relative path in which just one name leads on. If the option is a name itself, neither
empty nor dots and without a slash, the names are those of the option, the target and the two
configurations. And for two pairs with such options the paths are the same only if the options are,
the names of the targets and those of the configurations. -/
theorem pathOf_below (v : Violation) :
    ((∀ s : RecordStore, Below s.root (s.pathOf v)) ↔
      isAbsolute v.option = false ∧ ∃ name, Leads name ∧ steps v.option = [name]) ∧
    (Leads v.option.toList → ∀ s : RecordStore, Below s.root (s.pathOf v) ∧
      steps (s.pathOf v) = steps s.root ++
        [v.option.toList, v.target.slug.toList, (recordName v).toList]) ∧
    (Leads v.option.toList → ∀ v' : Violation, Leads v'.option.toList → ∀ s : RecordStore,
      (Same (s.pathOf v') (s.pathOf v) ↔ v'.option = v.option ∧
        v'.target.slug = v.target.slug ∧ recordName v' = recordName v)) := by
  refine ⟨⟨fun below => ?_, fun ⟨relative, alone⟩ s => (below_iff s relative).mpr alone⟩,
    fun leads s => ?_, fun leads v' leads' s => ?_⟩
  · have relative : isAbsolute v.option = false := by
      have start := (below ⟨"w"⟩).1
      rw [isAbsolute_pathOf] at start
      exact (Bool.or_eq_false_iff.mp start).1
    exact ⟨relative, (below_iff ⟨"w"⟩ relative).mp (below ⟨"w"⟩)⟩
  · have alone := leads.steps
    refine ⟨(below_iff s leads.isAbsolute).mpr ⟨_, leads, alone⟩, ?_⟩
    rw [pathOf_relative s leads.isAbsolute, alone]
    rfl
  · rw [Same, isAbsolute_pathOf, isAbsolute_pathOf, leads.isAbsolute, leads'.isAbsolute,
      pathOf_relative s leads.isAbsolute, pathOf_relative s leads'.isAbsolute, leads.steps,
      leads'.steps]
    simp [String.toList_inj]

open Comparison in
/-- A pair of the stairs on another option. -/
def sidewaysPair : Violation := { stairsPair "A" "C" true with option := "l" }

open Comparison in
theorem pathOf_below_stairs :
    Below shelf.root (shelf.pathOf (stairsPair "A" "C" true)) ∧
      (∀ s : RecordStore, Below s.root (s.pathOf (stairsPair "A" "C" true))) ∧
      ¬ Same (shelf.pathOf sidewaysPair) (shelf.pathOf (stairsPair "A" "C" true)) := by
  have leads : Leads "k".toList := ⟨by decide, by decide, by decide, by decide⟩
  have leads' : Leads "l".toList := ⟨by decide, by decide, by decide, by decide⟩
  obtain ⟨shape, named, told⟩ := pathOf_below (stairsPair "A" "C" true)
  refine ⟨(named leads shelf).1, shape.mpr ⟨leads.isAbsolute, _, leads, leads.steps⟩,
    fun same => ?_⟩
  have options : "l" = "k" := ((told leads sidewaysPair leads' shelf).mp same).1
  exact absurd options (by decide)

/-! ### Paths that leave the root -/

/-- The text of an artifact with two options, the names of which lead back to the folder above. -/
def climbsText : String :=
  "\x7b\"name\":\"t\",\"options\":[\x7b\"name\":\"..\",\"type\":\"enum\"," ++
    "\"levels\":[\"A\",\"B\"],\"default\":\"A\",\"orders\":[" ++
    "\x7b\"order\":\"MPT\",\"left\":\"A\",\"right\":\"B\"\x7d]\x7d," ++
    "\x7b\"name\":\"../\",\"type\":\"enum\",\"levels\":[\"A\"],\"default\":\"A\"\x7d]\x7d"

/-- The options that the text describes. -/
def climbsEntries : List OptionEntry :=
  [⟨"..", false, ["A", "B"], none, none, some "A", [], [⟨.morePrecise, "A", "B"⟩]⟩,
    ⟨"../", false, ["A"], none, none, some "A", [], []⟩]

/-- The space of these options. -/
def climbsSpace : Space where
  name := "t"
  dimensions := .ofList <| climbsEntries.map fun e =>
    (e.name, (Dimension.enumeration e.name).after e.calls)

/-- A finished job with a level of the first option, which it investigates. -/
def climbsJob (level : String) : FinishedJob :=
  ⟨⟨⟨.ofList [("..", ⟨"..", level⟩), ("../", ⟨"../", "A"⟩)], some ".."⟩, ⟨"p"⟩⟩, 0, some level⟩

/-- The pair that the two levels make. -/
def climbsPair : Violation :=
  .make (climbsJob "A") (climbsJob "B") ".."
    [⟨⟨⟨"..", "A"⟩, .morePrecise, ⟨"..", "B"⟩, ".."⟩, true, false⟩,
      ⟨⟨⟨"..", "B"⟩, .moreSound, ⟨"..", "A"⟩, ".."⟩, false, false⟩]

/-- **A record that is not below the root.** The artifact is accepted, and a pair on its first option
is reported. The path of the record leads out of the root again, into a folder beside it. With the
other option the same jobs have the same path. -/
theorem pathOf_escapes :
    Space.ofText climbsText = .ok climbsSpace ∧ climbsSpace.dimensions.keys = ["..", "../"] ∧
      Comparison.check climbsSpace [climbsJob "A", climbsJob "B"] = .ok [climbsPair] ∧
      steps (shelf.pathOf climbsPair) =
        ["records", "..", climbsPair.target.slug, recordName climbsPair].map String.toList ∧
      ¬ Below shelf.root (shelf.pathOf climbsPair) ∧
      place (shelf.pathOf climbsPair) = [climbsPair.target.slug, recordName climbsPair] ∧
      climbsPair.option = ".." ∧
      shelf.pathOf { climbsPair with option := "../" } = shelf.pathOf climbsPair := by
  have ⟨accepted, keys, checked⟩ :
      (Artifact.read? climbsText = some ⟨"t", climbsEntries⟩ ∧
        Artifact.build ⟨"t", climbsEntries⟩ = .ok climbsSpace) ∧
      climbsSpace.dimensions.keys = ["..", "../"] ∧
      Comparison.check climbsSpace [climbsJob "A", climbsJob "B"] = .ok [climbsPair] := by
    decide +kernel
  have relative : isAbsolute climbsPair.option = false := by decide
  have up : steps climbsPair.option = ["..".toList] := by decide
  have path : steps (shelf.pathOf climbsPair) =
      ["records", "..", climbsPair.target.slug, recordName climbsPair].map String.toList := by
    have root : steps shelf.root = ["records".toList] := by decide
    rw [pathOf_relative shelf relative, up, root]
    rfl
  refine ⟨(Space.ofText_eq_ok_iff _ _).mpr ⟨_, accepted⟩, keys, checked, path, ?_, ?_, rfl, ?_⟩
  · rw [below_iff shelf relative, up]
    rintro ⟨name, leads, alone⟩
    have dots : "..".toList = name := (List.cons.inj alone).1
    exact leads.2.2.2 dots.symm
  · have start : origin [] (shelf.pathOf climbsPair) = [] := by
      rw [origin, isAbsolute_pathOf, relative]
      rfl
    have back : follow (follow [] "records".toList) "..".toList = [] := by decide
    rw [place_eq_foldl_steps, start, path]
    simp only [List.map_cons, List.map_nil, List.foldl_cons, List.foldl_nil]
    rw [back, climbsPair.target.leads_slug.follow, (leads_recordName climbsPair).follow]
    simp
  · -- the slash at the end of the option is the one that joining puts there
    have folders (slug : String) (plain : isAbsolute slug = false) :
        join (join shelf.root "../") slug = join (join shelf.root "..") slug := by
      have whole : join shelf.root "../" = "records/../" ∧ join shelf.root ".." = "records/.." := by
        decide
      have ends : "records/../".toList.getLast? = some '/' ∧
          "records/..".toList.getLast? ≠ some '/' ∧ "records/.." ++ "/" = "records/../" := by
        decide
      rw [whole.1, whole.2]
      simp [join, plain, ends]
    exact congrArg (join · (recordName climbsPair))
      (folders _ climbsPair.target.leads_slug.isAbsolute)

end RecordStore
end OrderTrials
