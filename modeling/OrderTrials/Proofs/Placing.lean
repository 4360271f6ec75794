import OrderTrials.Execution.Run
import OrderTrials.Proofs.Folders
/-
# Where outputs lie

A path is a folder and a leaf. Paths with one folder lead, by their leaves, to different places of
the folder (`FileTree.place_ne_of_leaf`); so the time of a run never lies where its output lies
(`Execution.place_ne_timePath`). An output is named by the digest of the text of its configuration,
and the digest is all that tells the outputs for one target apart (`Job.outputPath_eq_iff`).

Key definitions: `Path.lead`, `Path.Leads`.
Key theorems: `Path.leaf_join`, `Path.segments_beside`, `FileTree.place_ne_of_leaf`,
`Job.outputPath_eq_iff`, `Execution.place_ne_timePath`.
-/

namespace OrderTrials

namespace Path

/-! ### Folders and leaves -/

theorem folder_append_leaf (p : String) : (folder p).toList ++ leaf p = p.toList := by
  rw [folder, leaf, String.toList_ofList, ← List.reverse_append, List.takeWhile_append_dropWhile,
    List.reverse_reverse]

theorem eq_beside (p : String) : p = String.ofList ((folder p).toList ++ leaf p) := by
  rw [folder_append_leaf, String.ofList_toList]

/-- Another extension gives a path of the same folder. -/
theorem withExtension_eq_beside (p extension : String) : withExtension p extension =
    String.ofList ((folder p).toList ++ (stem (leaf p) ++ '.' :: extension.toList)) := by
  rw [withExtension, ← String.toList_inj, String.toList_append]
  simp only [String.toList_ofList]

theorem slash_not_mem_leaf (p : String) : '/' ∉ leaf p := by
  rw [leaf, List.mem_reverse]
  intro h
  exact absurd (List.all_eq_true.mp List.all_takeWhile '/' h) (by decide)

/-- The folder of a path is empty or ends with a slash. -/
theorem folder_cases (p : String) :
    (folder p).toList = [] ∨ ∃ r, (folder p).toList = r ++ ['/'] := by
  rw [folder, String.toList_ofList]
  cases h : p.toList.reverse.dropWhile (· != '/') with
  | nil => exact .inl rfl
  | cons c r =>
    have slash : c = '/' := by
      have first := List.head?_dropWhile_not (· != '/') p.toList.reverse
      simpa [h] using first
    exact .inr ⟨r.reverse, by rw [slash, List.reverse_cons]⟩

/-- What stands after a slash is the leaf. -/
theorem leaf_of_slash {p : String} {r name : List Char} (h : p.toList = r ++ '/' :: name)
    (plain : '/' ∉ name) : leaf p = name := by
  have kept : ∀ c ∈ name.reverse, (c != '/') = true := by
    intro c hc
    rw [bne_iff_ne]
    rintro rfl
    exact plain (List.mem_reverse.mp hc)
  have parts : p.toList.reverse = name.reverse ++ '/' :: r.reverse := by
    simp [h]
  rw [leaf, parts, List.takeWhile_append_of_pos kept, List.takeWhile_cons_of_neg (by decide),
    List.append_nil, List.reverse_reverse]

/-- What stands alone is the leaf. -/
theorem leaf_of_no_slash {p : String} (plain : '/' ∉ p.toList) : leaf p = p.toList := by
  have kept : ∀ c ∈ p.toList.reverse, (c != '/') = true := by
    intro c hc
    rw [bne_iff_ne]
    rintro rfl
    exact plain (List.mem_reverse.mp hc)
  rw [leaf, ← List.append_nil p.toList.reverse, List.takeWhile_append_of_pos kept]
  simp

/-- The leaf of a path that is joined to another. -/
theorem leaf_join (base : String) {name : String} (plain : '/' ∉ name.toList) :
    leaf (join base name) = name.toList := by
  have slash : "/".toList = ['/'] := rfl
  unfold join
  split
  · exact leaf_of_no_slash plain
  · split
    · rename_i ends
      obtain ⟨r, hr⟩ := List.getLast?_eq_some_iff.mp (beq_iff_eq.mp ends)
      exact leaf_of_slash (by rw [String.toList_append, hr, List.append_assoc]; rfl) plain
    · refine leaf_of_slash (r := base.toList) ?_ plain
      rw [String.toList_append, String.toList_append, slash, List.append_assoc]
      rfl

/-- The segments of a path before its leaf. -/
def lead (p : String) : List (List Char) := (segments (folder p).toList).dropLast

theorem segments_eq_splitAt (s : List Char) : segments s = Text.splitAt (· == '/') s := by
  induction s with
  | nil => rfl
  | cons c r ih =>
    rw [Text.splitAt, ← ih]
    by_cases slash : c = '/'
    · subst slash
      rfl
    · cases h : segments r <;> simp [segments, slash, h]

/-- **The segments of the paths of a folder** are those of the folder and the leaf. -/
theorem segments_beside (p : String) {name : List Char} (plain : '/' ∉ name) :
    segments ((folder p).toList ++ name) = lead p ++ [name] := by
  have alone : segments name = [name] := by
    rw [segments_eq_splitAt]
    refine Text.splitAt_of_none fun c hc => ?_
    rw [beq_eq_false_iff_ne]
    rintro rfl
    exact plain hc
  rw [lead]
  rcases folder_cases p with empty | ⟨r, hr⟩
  · rw [empty, List.nil_append, alone]
    rfl
  · have cut (b : List Char) : segments (r ++ '/' :: b) = segments r ++ segments b := by
      rw [segments_eq_splitAt, segments_eq_splitAt, segments_eq_splitAt]
      exact Text.splitAt_append rfl r b
    rw [hr, List.append_assoc, List.singleton_append, cut, cut, alone, segments]
    simp

/-- A leaf that leads on from its folder: it is no detour. -/
def Leads (name : List Char) : Prop := '/' ∉ name ∧ name ≠ [] ∧ name ≠ ['.'] ∧ name ≠ ['.', '.']

theorem Leads.follow {name : List Char} (h : Leads name) (p : Place) :
    Path.follow p name = p ++ [String.ofList name] := by
  obtain ⟨-, empty, dot, dots⟩ := h
  simp [Path.follow, empty, dot, dots]

theorem origin_beside (base : Place) (p : String) {name : List Char} (plain : '/' ∉ name) :
    origin base (String.ofList ((folder p).toList ++ name)) = origin base (folder p) := by
  have same : isAbsolute (String.ofList ((folder p).toList ++ name)) = isAbsolute (folder p) := by
    rw [isAbsolute, isAbsolute, String.toList_ofList]
    cases (folder p).toList with
    | nil =>
      cases name with
      | nil => rfl
      | cons c r =>
        have other : c ≠ '/' := fun slash => plain (slash ▸ List.mem_cons_self)
        simp [other]
    | cons c r => rfl
  rw [origin, origin, same]

end Path

namespace FileTree

open Path

variable {t : FileTree} {p q q' : Place} {a b : List (List Char)}

theorem walk_append : t.walk p (a ++ b) = (t.walk p a).bind (t.walk · b) := by
  induction a generalizing p with
  | nil => rfl
  | cons c r ih =>
    rw [List.cons_append, walk, walk]
    split
    · rfl
    · split
      · rfl
      · exact ih
    · rfl

theorem settled_cases (t : FileTree) (p : Place) : t.settled p = p ∨ t.settled p = [] := by
  unfold settled
  split
  · split
    · exact .inr rfl
    · exact .inl rfl
  · exact .inl rfl

/-- A path of a folder leads to its leaf in the place of the folder. -/
theorem locate_beside {path : String} {name : List Char} (leads : Leads name)
    (h : t.locate [] (String.ofList ((folder path).toList ++ name)) = .ok q) :
    ∃ parent, t.walk (origin [] (folder path)) (lead path) = .ok parent ∧
      q = t.settled (parent ++ [String.ofList name]) := by
  unfold locate at h
  repeat' split at h
  · cases h
  · cases h
  · cases h
  · rw [origin_beside _ _ leads.1, String.toList_ofList, segments_beside _ leads.1, walk_append]
      at h
    cases hp : t.walk (origin [] (folder path)) (lead path) with
    | error fault => rw [hp] at h; cases h
    | ok parent =>
      rw [hp] at h
      refine ⟨parent, rfl, ?_⟩
      change t.walk parent [name] = .ok q at h
      simp only [walk] at h
      split at h
      · cases h
      · split at h
        · cases h
        · rw [← leads.follow]
          exact (Except.ok.inj h).symm
      · cases h

/-- **Different leaves of a folder lie at different places,** unless there is a folder. -/
theorem place_ne_of_leaf {path : String} {name name' : List Char} (leads : Leads name)
    (leads' : Leads name') (differ : name ≠ name')
    (h : t.locate [] (String.ofList ((folder path).toList ++ name)) = .ok q)
    (h' : t.locate [] (String.ofList ((folder path).toList ++ name')) = .ok q')
    (file : t.get? q ≠ some .folder) : q ≠ q' := by
  rintro rfl
  obtain ⟨parent, hp, place⟩ := locate_beside leads h
  obtain ⟨parent', hp', place'⟩ := locate_beside leads' h'
  obtain rfl := Except.ok.inj (hp.symm.trans hp')
  -- a place is settled to the working folder alone, and that is a folder
  have inner : q ≠ [] := by
    rintro rfl
    exact file rfl
  have last := place.trans ((t.settled_cases _).resolve_right (place ▸ inner))
  have last' := place'.trans ((t.settled_cases _).resolve_right (place' ▸ inner))
  have names := List.append_cancel_left (last.symm.trans last')
  exact differ (by simpa using congrArg (List.map String.toList) names)

end FileTree

/-! ### Names of outputs -/

theorem Text.exists_hexDigit {width n : Nat} {c : Char} (h : c ∈ hexDigits width n) :
    ∃ d < 16, c = hexDigit d := by
  induction width generalizing n with
  | zero => cases h
  | succ width ih =>
    rw [hexDigits, List.mem_append, List.mem_singleton] at h
    rcases h with h | rfl
    · exact ih h
    · exact ⟨n % 16, Nat.mod_lt _ (by decide), rfl⟩

theorem Digest.slash_not_mem_hex (text : String) : '/' ∉ (hex text).toList := by
  have digits : ∀ d < 16, Text.hexDigit d ≠ '/' := by decide
  intro slash
  rw [hex, String.toList_ofList, List.mem_flatMap] at slash
  obtain ⟨b, -, slash⟩ := slash
  obtain ⟨d, hd, isDigit⟩ := Text.exists_hexDigit slash
  exact digits d hd isDigit.symm

namespace Job

variable {c c' : Configuration}

/-- The name of an output is no path of several segments. -/
theorem slash_not_mem_name (c : Configuration) : '/' ∉ (c.fingerprint ++ ".out").toList := by
  have ending : '/' ∉ ".out".toList := by simp
  rw [String.toList_append, List.mem_append, not_or]
  exact ⟨Digest.slash_not_mem_hex c.text, ending⟩

theorem leaf_outputPath (j : Job) (folder : String) :
    Path.leaf (j.outputPath folder) = (j.configuration.fingerprint ++ ".out").toList :=
  Path.leaf_join _ (slash_not_mem_name j.configuration)

/-- **The outputs of two jobs on a target have one place** exactly if the digests are equal. -/
theorem outputPath_eq_iff (c c' : Configuration) (t : Target) (folder : String) :
    (⟨c, t⟩ : Job).outputPath folder = (⟨c', t⟩ : Job).outputPath folder ↔
      c.fingerprint = c'.fingerprint := by
  constructor
  · intro same
    have names : (c.fingerprint ++ ".out").toList = (c'.fingerprint ++ ".out").toList := by
      rw [← leaf_outputPath ⟨c, t⟩ folder, same, leaf_outputPath]
    rw [String.toList_append, String.toList_append, List.append_cancel_right_eq] at names
    exact String.toList_inj.mp names
  · intro same
    simp only [outputPath, same]

end Job

/-! ### The time beside an output -/

theorem Path.leads_of_mem {name : List Char} {c : Char} (plain : '/' ∉ name) (hc : c ∈ name)
    (other : c ≠ '.') : Leads name := by
  refine ⟨plain, ?_, ?_, ?_⟩ <;>
  · rintro rfl
    simp_all

theorem Path.stem_subset (name : List Char) : stem name ⊆ name := by
  unfold stem
  dsimp only
  split
  · exact List.Subset.refl _
  · rename_i before h
    split
    · exact List.Subset.refl _
    · intro c hc
      have dropped := (List.dropWhile_sublist (l := name.reverse) (· != '.')).subset
      rw [h] at dropped
      exact List.mem_reverse.mp (dropped (List.mem_cons_of_mem _ (List.mem_reverse.mp hc)))

namespace Execution

open Path

variable {t : FileTree} {q q' : Place}

/-- The name of an output leads on from its folder. -/
theorem leads_leaf (j : Job) (folder : String) : Leads (leaf (j.outputPath folder)) := by
  refine leads_of_mem (slash_not_mem_leaf _) (c := 't') ?_ (by decide)
  have out : ".out".toList = ['.', 'o', 'u', 't'] := rfl
  simp [j.leaf_outputPath folder, out]

/-- The name of a time leads on from its folder. -/
theorem leads_time (path : String) : Leads (stem (leaf path) ++ '.' :: "time".toList) := by
  have time : "time".toList = ['t', 'i', 'm', 'e'] := rfl
  refine leads_of_mem (c := 'e') ?_ (by simp [time]) (by decide)
  intro slash
  rw [time] at slash
  rcases List.mem_append.mp slash with inner | ending
  · exact slash_not_mem_leaf _ (stem_subset _ inner)
  · exact absurd ending (by decide)

/-- **The time does not lie where the output lies.** -/
theorem place_ne_timePath (j : Job) (folder : String)
    (h : t.locate [] (j.outputPath folder) = .ok q)
    (h' : t.locate [] (timePath (j.outputPath folder)) = .ok q')
    (file : t.get? q ≠ some .folder) : q ≠ q' := by
  rw [eq_beside (j.outputPath folder)] at h
  rw [timePath, withExtension_eq_beside] at h'
  refine FileTree.place_ne_of_leaf (leads_leaf j folder) (leads_time _) ?_ h h' file
  intro same
  have out : ".out".toList = ['.', 'o', 'u', 't'] := rfl
  have time : "time".toList = ['t', 'i', 'm', 'e'] := rfl
  have last := congrArg List.getLast? same
  rw [j.leaf_outputPath folder, String.toList_append, out, time] at last
  simp at last

end Execution
end OrderTrials
