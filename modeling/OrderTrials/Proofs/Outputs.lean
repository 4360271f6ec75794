import OrderTrials.Proofs.Standing
import OrderTrials.Proofs.Ways
/-
# Runs place by place

The output of a job and its time lie side by side in the folder of its target, and jobs with
different output paths share neither place (`Execution.outputPlace_injective`,
`Execution.timePlace_injective`, `Execution.outputPlace_ne_timePlace`). What a run makes of a tree
is said here for each place: completing a run fills the place of the output if it is empty and puts
the time beside it (`Execution.complete_eq`), and failing empties both places
(`Execution.get?_fail`). Everything else stays, and which faults come up depends on the folders on
the way and on the place of the time alone.

Key definitions: `Execution.outputPlace`, `Execution.timePlace`, `Execution.ensured`,
`Execution.outcome`.
Key theorems: `Execution.timePath_outputPath`, `Execution.outputPlace_injective`,
`Execution.complete_eq`, `Execution.get?_fail`, `Execution.reusable?_congr`.
-/

namespace OrderTrials

/-! ### Names of outputs, times and folders -/

theorem Text.length_hexDigits (width n : Nat) : (hexDigits width n).length = width := by
  induction width generalizing n with
  | zero => rfl
  | succ width ih => rw [hexDigits, List.length_append, ih, List.length_singleton]

theorem Digest.toList_hex_ne_nil (text : String) : (hex text).toList ≠ [] := by
  have word (n : Nat) : lowBytes 4 n ≠ [] := List.cons_ne_nil _ _
  obtain ⟨b, r, hr⟩ : ∃ b r, bytes text.toUTF8.toList = b :: r := by
    refine List.exists_cons_of_ne_nil fun none => ?_
    rw [bytes, List.flatMap_cons] at none
    exact word _ (List.append_eq_nil_iff.mp none).1
  rw [hex, String.toList_ofList, hr, List.flatMap_cons]
  intro none
  have two := Text.length_hexDigits 2 b.toNat
  rw [(List.append_eq_nil_iff.mp none).1] at two
  cases two

theorem Target.leads_slug (target : Target) : Path.Leads target.slug.toList := by
  have dash : "-".toList = ['-'] := rfl
  refine Path.leads_of_mem (c := '-') ?_ ?_ (by decide)
  · intro slash
    simp only [slug, String.toList_append, String.toList_ofList, dash, List.mem_append,
      List.mem_map, List.mem_singleton] at slash
    rcases slash with (⟨c, -, hc⟩ | slash) | slash
    · split at hc
      · rename_i safe
        rw [hc] at safe
        exact absurd safe (by decide)
      · exact absurd hc (by decide)
    · exact absurd slash (by decide)
    · exact Digest.slash_not_mem_hex _ (List.mem_of_mem_take slash)
  · simp [slug, dash]

theorem Path.stem_of_extension {name extension : List Char} (something : name ≠ [])
    (plain : '.' ∉ extension) : stem (name ++ '.' :: extension) = name := by
  have kept : ∀ c ∈ extension.reverse, (c != '.') = true := by
    intro c hc
    rw [bne_iff_ne]
    rintro rfl
    exact plain (List.mem_reverse.mp hc)
  have parts : (name ++ '.' :: extension).reverse = extension.reverse ++ '.' :: name.reverse := by
    simp
  have filled : name.reverse.isEmpty = false := by simpa using something
  rw [stem, parts, List.dropWhile_append_of_pos kept, List.dropWhile_cons_of_neg (by decide)]
  simp only [filled, Bool.false_eq_true, if_false, List.reverse_reverse]

/-- Names are joined to a path behind one and the same text. -/
theorem Path.exists_toList_join (base : String) :
    ∃ lead, ∀ name : String, isAbsolute name = false →
      (join base name).toList = lead ++ name.toList := by
  by_cases empty : base = ""
  · refine ⟨[], fun name relative => ?_⟩
    subst empty
    rw [join, relative]
    rfl
  · have filled : base.isEmpty = false := Bool.eq_false_iff.mpr (mt String.isEmpty_iff.mp empty)
    by_cases ends : (base.toList.getLast? == some '/') = true
    · refine ⟨base.toList, fun name relative => ?_⟩
      rw [join, relative, filled, Bool.false_or, if_neg Bool.false_ne_true, if_pos ends,
        String.toList_append]
    · refine ⟨base.toList ++ ['/'], fun name relative => ?_⟩
      have slash : "/".toList = ['/'] := rfl
      rw [join, relative, filled, Bool.false_or, if_neg Bool.false_ne_true, if_neg ends,
        String.toList_append, String.toList_append, slash]

theorem Path.beside_injective {p q : Place} {a b : String} (h : p ++ [a] = q ++ [b]) :
    p = q ∧ a = b := by
  simpa using h

namespace Execution

open Path

variable {job job' : Job} {folder : String} {elapsed : Nat} {t t' : FileTree}
  {p s : Place}

/-- The name of the output of a job. -/
def outputName (job : Job) : String := job.configuration.fingerprint ++ ".out"

/-- The name of the file with its time. -/
def timeName (job : Job) : String := job.configuration.fingerprint ++ ".time"

theorem outputPath_eq (job : Job) (folder : String) :
    job.outputPath folder = join (folderOf job folder) (outputName job) := rfl

theorem leads_outputName (job : Job) : Leads (outputName job).toList := by
  have out : ".out".toList = ['.', 'o', 'u', 't'] := rfl
  refine leads_of_mem (c := 't') (Job.slash_not_mem_name job.configuration) ?_ (by decide)
  simp [outputName, out]

theorem leads_timeName (job : Job) : Leads (timeName job).toList := by
  have time : ".time".toList = ['.', 't', 'i', 'm', 'e'] := rfl
  refine leads_of_mem (c := 'e') ?_ (by simp [timeName, time]) (by decide)
  rw [timeName, String.toList_append, List.mem_append, not_or]
  exact ⟨Digest.slash_not_mem_hex _, by simp⟩

/-- The time lies in the folder of the output. -/
theorem timePath_outputPath (job : Job) (folder : String) :
    timePath (job.outputPath folder) = join (folderOf job folder) (timeName job) := by
  obtain ⟨lead, hlead⟩ := exists_toList_join (folderOf job folder)
  have output := hlead _ (leads_outputName job).isAbsolute
  have time := hlead _ (leads_timeName job).isAbsolute
  have leaf : leaf (job.outputPath folder) = (outputName job).toList := job.leaf_outputPath folder
  have parts := folder_append_leaf (job.outputPath folder)
  rw [leaf, outputPath_eq, output, List.append_cancel_right_eq] at parts
  have out : ".out".toList = ['.', 'o', 'u', 't'] := rfl
  have stemmed : stem (outputName job).toList = job.configuration.fingerprint.toList := by
    rw [outputName, String.toList_append, out]
    exact stem_of_extension (Digest.toList_hex_ne_nil _) (by decide)
  rw [timePath, withExtension_eq_beside, leaf, stemmed, ← String.toList_inj, String.toList_ofList,
    time, timeName, String.toList_append, outputPath_eq, parts]
  rfl

/-! ### Places of outputs and times -/

/-- The place of the output of a job. -/
def outputPlace (t : FileTree) (job : Job) (folder : String) : Place :=
  t.goalOf (job.outputPath folder)

/-- The place of the time beside it. -/
def timePlace (t : FileTree) (job : Job) (folder : String) : Place :=
  t.goalOf (timePath (job.outputPath folder))

/-- The place of the folder of a target. -/
theorem goalOf_folderOf (t : FileTree) (job : Job) (folder : String) :
    t.goalOf (folderOf job folder) = t.settled (t.goalOf folder ++ [job.target.slug]) :=
  FileTree.goalOf_join job.target.leads_slug

/-- A place is settled to the working folder only from the folder above it. -/
theorem eq_of_settled_nil (h : t.settled p = []) :
    p = [] ∨ ∃ home, t.home = some home ∧ p = ["..", home] := by
  unfold FileTree.settled at h
  split at h
  · rename_i up name home hhome
    split at h
    · rename_i detour
      exact .inr ⟨home, hhome, by rw [detour.1, detour.2]⟩
    · exact .inl h
  · exact .inl h

/-- A name that leads on does not lead up. -/
theorem settled_ne_up (t : FileTree) (p : Place) {name : String} (leads : Leads name.toList) :
    t.settled (p ++ [name]) ≠ [".."] := by
  rcases t.settled_cases (p ++ [name]) with same | home
  · rw [same]
    intro up
    have last : name = ".." := by simpa using congrArg List.getLast? up
    exact leads.2.2.2 (by rw [last]; rfl)
  · rw [home]
    nofun

/-- In any folder but the one above the working folder, a name leads to a place in it. -/
theorem settled_beside (other : p ≠ [".."]) (name : String) :
    t.settled (p ++ [name]) = p ++ [name] := by
  refine (t.settled_cases _).resolve_right fun home => ?_
  rcases eq_of_settled_nil home with none | ⟨up, -, detour⟩
  · exact List.cons_ne_nil _ _ (List.append_eq_nil_iff.mp none).2
  · have last : name = up := by simpa using congrArg List.getLast? detour
    rw [last] at detour
    have above : p ++ [up] = [".."] ++ [up] := detour
    exact other (List.append_cancel_right above)

theorem goalOf_folderOf_ne_up (t : FileTree) (job : Job) (folder : String) :
    t.goalOf (folderOf job folder) ≠ [".."] := by
  rw [goalOf_folderOf]
  exact settled_ne_up t _ job.target.leads_slug

/-- Names in the folder of a target stay in it. -/
theorem goalOf_beside (t : FileTree) (job : Job) (folder : String) {name : String}
    (leads : Leads name.toList) :
    t.goalOf (join (folderOf job folder) name) = t.goalOf (folderOf job folder) ++ [name] := by
  rw [FileTree.goalOf_join leads]
  exact settled_beside (goalOf_folderOf_ne_up t job folder) name

theorem outputPlace_eq (t : FileTree) (job : Job) (folder : String) :
    outputPlace t job folder = t.goalOf (folderOf job folder) ++ [outputName job] :=
  goalOf_beside t job folder (leads_outputName job)

theorem timePlace_eq (t : FileTree) (job : Job) (folder : String) :
    timePlace t job folder = t.goalOf (folderOf job folder) ++ [timeName job] := by
  rw [timePlace, timePath_outputPath]
  exact goalOf_beside t job folder (leads_timeName job)

theorem outputPlace_of_home (home : t'.home = t.home) :
    outputPlace t' job folder = outputPlace t job folder :=
  FileTree.goalOf_of_home home

theorem timePlace_of_home (home : t'.home = t.home) :
    timePlace t' job folder = timePlace t job folder :=
  FileTree.goalOf_of_home home

/-- Targets with one folder have one slug. -/
theorem slug_eq_of_folder
    (h : t.goalOf (folderOf job folder) = t.goalOf (folderOf job' folder)) :
    job.target.slug = job'.target.slug := by
  rw [goalOf_folderOf, goalOf_folderOf] at h
  have filled (name : String) : t.goalOf folder ++ [name] ≠ [] := by simp
  rcases t.settled_cases (t.goalOf folder ++ [job.target.slug]) with same | home
  · rcases t.settled_cases (t.goalOf folder ++ [job'.target.slug]) with same' | home'
    · rw [same, same'] at h
      simpa using h
    · rw [same, home'] at h
      exact absurd h (filled _)
  · rcases eq_of_settled_nil home with none | ⟨up, hup, detour⟩
    · exact absurd none (filled _)
    · rw [home] at h
      rcases eq_of_settled_nil h.symm with none | ⟨up', hup', detour'⟩
      · exact absurd none (filled _)
      · obtain rfl := Option.some.inj (hup.symm.trans hup')
        simpa using detour.trans detour'.symm

/-- **Jobs with different output paths have different places** for their outputs. -/
theorem outputPlace_injective
    (h : outputPlace t job folder = outputPlace t job' folder) :
    job.outputPath folder = job'.outputPath folder := by
  rw [outputPlace_eq, outputPlace_eq] at h
  obtain ⟨folders, name⟩ := beside_injective h
  rw [outputPath_eq, outputPath_eq, folderOf, folderOf, slug_eq_of_folder folders, name]

theorem timePlace_injective
    (h : timePlace t job folder = timePlace t job' folder) :
    job.outputPath folder = job'.outputPath folder := by
  rw [timePlace_eq, timePlace_eq] at h
  obtain ⟨folders, name⟩ := beside_injective h
  have digest : job.configuration.fingerprint = job'.configuration.fingerprint := by
    rw [timeName, timeName, ← String.toList_inj, String.toList_append, String.toList_append,
      List.append_cancel_right_eq] at name
    exact String.toList_inj.mp name
  rw [outputPath_eq, outputPath_eq, folderOf, folderOf, slug_eq_of_folder folders, outputName,
    outputName, digest]

/-- No output lies where a time lies. -/
theorem outputPlace_ne_timePlace (t : FileTree) (job job' : Job) (folder : String) :
    outputPlace t job folder ≠ timePlace t job' folder := by
  rw [outputPlace_eq, timePlace_eq]
  intro h
  obtain ⟨-, name⟩ := beside_injective h
  have out : ".out".toList = ['.', 'o', 'u', 't'] := rfl
  have time : ".time".toList = ['.', 't', 'i', 'm', 'e'] := rfl
  have last := congrArg (fun n : String => n.toList.getLast?) name
  simp [outputName, timeName, out, time] at last

/-- No output and no time lies where the folder of a target is. -/
theorem beside_ne_folder (t : FileTree) (job job' : Job) (folder name : String) :
    t.goalOf (folderOf job folder) ++ [name] ≠ t.goalOf (folderOf job' folder) := by
  intro h
  have filled : t.goalOf (folderOf job' folder) ≠ [] := by
    rw [← h]
    simp
  have other := goalOf_folderOf t job' folder
  rw [(t.settled_cases _).resolve_right (other ▸ filled)] at other
  rw [other] at h
  obtain ⟨inner, -⟩ := beside_injective h
  rw [goalOf_folderOf] at inner
  rcases t.settled_cases (t.goalOf folder ++ [job.target.slug]) with same | home
  · rw [same] at inner
    have length := congrArg List.length inner
    simp at length
  · rw [home] at inner
    rcases eq_of_settled_nil home with none | ⟨up, -, detour⟩
    · simp at none
    · rw [← inner] at detour
      have length := congrArg List.length detour
      simp at length

/-! ### What is seen of a tree -/

variable {base name : String}

theorem find?_join_congr (leads : Leads name.toList) (home : t'.home = t.home)
    (same : ∀ f ∈ t.wayOf base, t'.get? f = t.get? f)
    (goal : t'.get? (t.goalOf (join base name)) = t.get? (t.goalOf (join base name))) :
    t'.find? [] (join base name) = t.find? [] (join base name) := by
  have located := FileTree.locate_join_congr leads home same
  unfold FileTree.find?
  rw [located]
  cases h : t.locate [] (join base name) with
  | error fault => rfl
  | ok q =>
    obtain ⟨-, -, -, rfl⟩ := (FileTree.locate_join_ok_iff leads).mp h
    exact goal

theorem read_join_congr (leads : Leads name.toList) (home : t'.home = t.home)
    (same : ∀ f ∈ t.wayOf base, t'.get? f = t.get? f)
    (goal : t'.get? (t.goalOf (join base name)) = t.get? (t.goalOf (join base name))) :
    t'.read (join base name) = t.read (join base name) := by
  have located := FileTree.locate_join_congr leads home same
  unfold FileTree.read FileTree.readFrom
  rw [located]
  cases h : t.locate [] (join base name) with
  | error fault => rfl
  | ok q =>
    obtain ⟨-, -, -, rfl⟩ := (FileTree.locate_join_ok_iff leads).mp h
    simp only [goal]

/-- Two trees that are the same on the way to the output of a job, and in its place and that of its
time. -/
structure Alike (job : Job) (folder : String) (t t' : FileTree) : Prop where
  home : t'.home = t.home
  way : ∀ f ∈ t.wayOf (folderOf job folder), t'.get? f = t.get? f
  output : t'.get? (outputPlace t job folder) = t.get? (outputPlace t job folder)
  time : t'.get? (timePlace t job folder) = t.get? (timePlace t job folder)

theorem Alike.find?_output (h : Alike job folder t t') :
    t'.find? [] (job.outputPath folder) = t.find? [] (job.outputPath folder) :=
  find?_join_congr (leads_outputName job) h.home h.way h.output

/-- **Whether there is a result of an earlier run** is seen from these places alone. -/
theorem reusable?_congr (h : Alike job folder t t') :
    reusable? job (job.outputPath folder) t' = reusable? job (job.outputPath folder) t := by
  have file : t'.hasFile (job.outputPath folder) = t.hasFile (job.outputPath folder) := by
    rw [FileTree.hasFile, FileTree.hasFile, h.find?_output]
  have bytes : t'.read (timePath (job.outputPath folder)) =
      t.read (timePath (job.outputPath folder)) := by
    have place := h.time
    rw [timePlace, timePath_outputPath] at place
    rw [timePath_outputPath]
    exact read_join_congr (leads_timeName job) h.home h.way place
  have recorded : recordedTime? t' (job.outputPath folder) =
      recordedTime? t (job.outputPath folder) := by
    rw [recordedTime?, recordedTime?, bytes]
  rw [reusable?, reusable?, file, recorded]

theorem Alike.locate_output (h : Alike job folder t t') :
    t'.locate [] (job.outputPath folder) = t.locate [] (job.outputPath folder) :=
  FileTree.locate_join_congr (leads_outputName job) h.home h.way

theorem Alike.locate_time (h : Alike job folder t t') :
    t'.locate [] (timePath (job.outputPath folder)) =
      t.locate [] (timePath (job.outputPath folder)) := by
  rw [timePath_outputPath]
  exact FileTree.locate_join_congr (leads_timeName job) h.home h.way

theorem outputPlace_eq_of_locate (h : t.locate [] (job.outputPath folder) = .ok p) :
    outputPlace t job folder = p :=
  ((FileTree.locate_join_ok_iff (leads_outputName job)).mp h).2.2.2.symm

theorem timePlace_eq_of_locate (h : t.locate [] (timePath (job.outputPath folder)) = .ok s) :
    timePlace t job folder = s := by
  rw [timePath_outputPath] at h
  rw [timePlace, timePath_outputPath]
  exact ((FileTree.locate_join_ok_iff (leads_timeName job)).mp h).2.2.2.symm

/-! ### How runs end -/

/-- The tree with an empty file at a place, unless something is there. -/
def ensured (t : FileTree) (p : Place) : FileTree :=
  match t.get? p with
  | none => t.put p (.file .empty)
  | some _ => t

theorem get?_ensured (t : FileTree) (p q : Place) :
    (ensured t p).get? q = if q = p then some ((t.get? p).getD (.file .empty)) else t.get? q := by
  unfold ensured
  cases there : t.get? p with
  | some e =>
    by_cases here : q = p
    · rw [if_pos here, here, there]
      rfl
    · rw [if_neg here]
  | none =>
    by_cases here : q = p
    · have root : FileTree.isRoot p = false := FileTree.isRoot_eq_false (by rw [there]; nofun)
      rw [if_pos here, here, t.get?_put_self _ root]
      rfl
    · rw [if_neg here, t.get?_put_of_ne _ here]

theorem sameFolders_ensured (t : FileTree) (p : Place) : FileTree.SameFolders t (ensured t p) := by
  unfold ensured
  cases there : t.get? p with
  | some e => exact .refl t
  | none => exact FileTree.sameFolders_put (by rw [there]; nofun) nofun

theorem endsOpen_join (base : String) {name : String} (leads : Leads name.toList) :
    endsOpen (join base name) = false := by
  obtain ⟨lead, hlead⟩ := exists_toList_join base
  obtain ⟨init, last, hlast⟩ := (List.eq_nil_or_concat name.toList).resolve_left leads.2.1
  rw [endsOpen, hlead name leads.isAbsolute, beq_eq_false_iff_ne, hlast]
  intro slash
  have last : last = '/' := by simpa using slash
  refine leads.1 ?_
  rw [hlast, last]
  simp

/-- A file is written where a path leads, if it can be, and else nothing changes. -/
theorem written_eq (t : FileTree) (path : String) (bytes : ByteArray) :
    (t.write path bytes).toOption.getD t =
      if endsOpen path = true ∧ steps path ≠ [] then t
      else
        match t.locate [] path with
        | .error _ => t
        | .ok p =>
          match t.get? p with
          | some .folder | some .void => t
          | _ => t.put p (.file bytes) := by
  unfold FileTree.write FileTree.writeFrom FileTree.locateFile
  by_cases ends : endsOpen path = true ∧ steps path ≠ []
  · rw [if_pos ends, if_pos ends]
    cases t.locate [] (closed path) <;> rfl
  · rw [if_neg ends, if_neg ends]
    cases t.locate [] path with
    | error fault => rfl
    | ok p =>
      dsimp only
      cases t.get? p with
      | none => rfl
      | some e => cases e <;> rfl

/-- What is made sure of is the output, if its path can be followed. -/
theorem ensured_eq (job : Job) (folder : String) (t : FileTree) :
    (if t.has (job.outputPath folder) then .ok t else t.write (job.outputPath folder) .empty) =
      (t.locate [] (job.outputPath folder)).map (ensured t) := by
  have closed : endsOpen (job.outputPath folder) = false :=
    endsOpen_join _ (leads_outputName job)
  have located : t.locateFile [] (job.outputPath folder) = t.locate [] (job.outputPath folder) := by
    rw [FileTree.locateFile, closed, if_neg fun ends => Bool.false_ne_true ends.1]
  unfold FileTree.write FileTree.writeFrom FileTree.has FileTree.find?
  rw [located]
  cases t.locate [] (job.outputPath folder) with
  | error fault => rfl
  | ok p => cases there : t.get? p <;> simp [ensured, there, Except.map]

/-- **A run that succeeds is completed:** where its path leads an output is made sure of, and the
time is put beside it. -/
theorem complete_eq (job : Job) (folder : String) (elapsed : Nat) (t : FileTree) :
    complete job (job.outputPath folder) elapsed t =
      match t.locate [] (job.outputPath folder) with
      | .error fault => (.error (.io (job.outputPath folder) fault), t)
      | .ok p =>
        match t.locate [] (timePath (job.outputPath folder)) with
        | .error fault => (.error (.io (timePath (job.outputPath folder)) fault), ensured t p)
        | .ok s =>
          if t.get? s = some .folder then
            (.error (.io (timePath (job.outputPath folder)) .isFolder), ensured t p)
          else
            (.ok ⟨job, elapsed, some (job.outputPath folder)⟩,
              (ensured t p).put s (.file (Text.showNatural elapsed).toUTF8)) := by
  unfold complete
  rw [ensured_eq]
  cases hp : t.locate [] (job.outputPath folder) with
  | error fault => rfl
  | ok p =>
    have same := sameFolders_ensured t p
    have located : (ensured t p).locate [] (timePath (job.outputPath folder)) =
        t.locate [] (timePath (job.outputPath folder)) := by
      rw [timePath_outputPath]
      refine FileTree.locate_join_congr (leads_timeName job) same.1.home fun f hf => ?_
      have folder := ((FileTree.locate_join_ok_iff (leads_outputName job)).mp hp).2.1 f hf
      rw [folder, same.1.folders f folder]
    dsimp only [Except.map]
    rw [FileTree.replace, located]
    cases hs : t.locate [] (timePath (job.outputPath folder)) with
    | error fault => rfl
    | ok s =>
      have apart : s ≠ p := by
        rw [← outputPlace_eq_of_locate hp, ← timePlace_eq_of_locate hs]
        exact (outputPlace_ne_timePlace t job job folder).symm
      have there : (ensured t p).get? s = t.get? s := by rw [get?_ensured, if_neg apart]
      simp only [there]
      cases t.get? s with
      | none => rfl
      | some e => cases e <;> rfl

/-- Nothing keeps a run that has succeeded from being completed. -/
def Completes (job : Job) (folder : String) (t : FileTree) : Prop :=
  t.locate [] (job.outputPath folder) = .ok (outputPlace t job folder) ∧
    t.locate [] (timePath (job.outputPath folder)) = .ok (timePlace t job folder) ∧
    t.get? (timePlace t job folder) ≠ some .folder

instance decidableCompletes (job : Job) (folder : String) (t : FileTree) :
    Decidable (Completes job folder t) :=
  inferInstanceAs (Decidable (_ ∧ _ ∧ _))

theorem completes_congr (home : t'.home = t.home)
    (way : ∀ f ∈ t.wayOf (folderOf job folder), t'.get? f = t.get? f)
    (time : t'.get? (timePlace t job folder) = t.get? (timePlace t job folder)) :
    Completes job folder t' ↔ Completes job folder t := by
  have foundOutput := FileTree.locate_join_congr (leads_outputName job) home way
  have foundTime := FileTree.locate_join_congr (leads_timeName job) home way
  rw [Completes, Completes, outputPlace_of_home home, timePlace_of_home home, timePath_outputPath,
    foundTime, outputPath_eq, foundOutput, time]

theorem Completes.of_sameFolders (completes : Completes job folder t)
    (same : FileTree.SameFolders t t') : Completes job folder t' := by
  obtain ⟨output, time, free⟩ := completes
  rw [← outputPlace_of_home same.1.home] at output
  rw [← timePlace_of_home same.1.home] at time free
  exact ⟨same.1.locate output, same.1.locate time, fun there => free (same.2.folders _ there)⟩

/-- What an answer says but for the time: whether there is one, and the path of the output. -/
def outcome (answer : Except RunFault FinishedJob) : Option (Option String) :=
  answer.toOption.map (·.result)

theorem outcome_complete (job : Job) (folder : String) (elapsed : Nat) (t : FileTree) :
    outcome (complete job (job.outputPath folder) elapsed t).1 =
      if Completes job folder t then some (some (job.outputPath folder)) else none := by
  rw [complete_eq]
  cases hp : t.locate [] (job.outputPath folder) with
  | error fault => rw [if_neg fun completes => by cases hp.symm.trans completes.1]; rfl
  | ok p =>
    cases hs : t.locate [] (timePath (job.outputPath folder)) with
    | error fault => rw [if_neg fun completes => by cases hs.symm.trans completes.2.1]; rfl
    | ok s =>
      obtain rfl := outputPlace_eq_of_locate hp
      obtain rfl := timePlace_eq_of_locate hs
      by_cases blocked : t.get? (timePlace t job folder) = some .folder
      · rw [if_neg fun completes => completes.2.2 blocked]
        simp only [blocked, if_true]
        rfl
      · rw [if_pos ⟨hp, hs, blocked⟩]
        simp only [blocked, if_false]
        rfl

/-- **A run that succeeds, place by place:** it leaves its time, and in the place of the output what
has been there, or an empty file. -/
theorem get?_complete (job : Job) (folder : String) (elapsed : Nat) (t : FileTree) (q : Place) :
    (complete job (job.outputPath folder) elapsed t).2.get? q =
      if q = timePlace t job folder ∧ Completes job folder t then
        some (.file (Text.showNatural elapsed).toUTF8)
      else if t.locate [] (job.outputPath folder) = .ok q then
        some ((t.get? q).getD (.file .empty))
      else t.get? q := by
  rw [complete_eq]
  cases hp : t.locate [] (job.outputPath folder) with
  | error fault =>
    have lost : ¬ (.error fault : Except FileFault Place) = .ok q := by
      intro h
      cases h
    have untimed : ¬ Completes job folder t := fun h => by cases hp.symm.trans h.1
    rw [if_neg (not_and_of_not_right _ untimed), if_neg lost]
  | ok p =>
    have output : (ensured t p).get? q =
        if (.ok p : Except FileFault Place) = .ok q then some ((t.get? q).getD (.file .empty))
        else t.get? q := by
      rw [get?_ensured]
      by_cases here : q = p
      · rw [if_pos here, here, if_pos rfl]
      · rw [if_neg here, if_neg fun same => here (Except.ok.inj same).symm]
    cases hs : t.locate [] (timePath (job.outputPath folder)) with
    | error fault =>
      rw [if_neg fun time => by cases hs.symm.trans time.2.2.1]
      exact output
    | ok s =>
      obtain rfl := outputPlace_eq_of_locate hp
      obtain rfl := timePlace_eq_of_locate hs
      by_cases blocked : t.get? (timePlace t job folder) = some .folder
      · rw [if_neg fun time => time.2.2.2 blocked]
        simp only [blocked, if_true]
        exact output
      · simp only [blocked, if_false]
        by_cases here : q = timePlace t job folder
        · have root : FileTree.isRoot q = false := FileTree.isRoot_eq_false (here ▸ blocked)
          rw [if_pos ⟨here, hp, hs, blocked⟩, ← here]
          exact (ensured t _).get?_put_self _ root
        · rw [if_neg fun time => here time.1, ← output]
          exact (ensured t _).get?_put_of_ne _ here

theorem sameFolders_complete (job : Job) (folder : String) (elapsed : Nat) (t : FileTree) :
    FileTree.SameFolders t (complete job (job.outputPath folder) elapsed t).2 := by
  rw [complete_eq]
  split
  · exact .refl t
  · rename_i p hp
    split
    · exact sameFolders_ensured t p
    · rename_i s hs
      split
      · exact sameFolders_ensured t p
      · rename_i free
        refine (sameFolders_ensured t p).trans (FileTree.sameFolders_put ?_ nofun)
        exact fun there => free ((sameFolders_ensured t p).2.folders s there)

/-- A run that is completed has its output in its place. -/
theorem find?_complete (elapsed : Nat) (completes : Completes job folder t) :
    (complete job (job.outputPath folder) elapsed t).2.find? [] (job.outputPath folder) =
      some ((t.get? (outputPlace t job folder)).getD (.file .empty)) := by
  have same := sameFolders_complete job folder elapsed t
  refine FileTree.find?_eq_some_iff.mpr ⟨_, same.1.locate completes.1, ?_⟩
  rw [get?_complete, if_neg fun time => outputPlace_ne_timePlace t job job folder time.1,
    if_pos completes.1]

/-- Where a path leads, everything but a folder goes when it is discarded. -/
theorem get?_discard (t : FileTree) (path : String) (q : Place) :
    (t.discard path).get? q =
      if t.locate [] path = .ok q ∧ t.get? q ≠ some .folder then none else t.get? q := by
  rcases t.discard_cases path with ⟨folder, same⟩ | ⟨p, hp, noFolder, dropped⟩
  · rw [same]
    split
    · rename_i here
      cases there : t.get? q with
      | none => rfl
      | some e =>
        have is := folder e (FileTree.find?_eq_some_iff.mpr ⟨q, here.1, there⟩)
        exact absurd (is ▸ there) here.2
    · rfl
  · rw [dropped, FileTree.get?_drop t q (FileTree.isRoot_eq_false noFolder), hp]
    by_cases here : q = p
    · subst here
      rw [if_pos rfl, if_pos ⟨rfl, noFolder⟩]
    · rw [if_neg here, if_neg fun same => here (Except.ok.inj same.1).symm]

/-- **A run that fails leaves nothing** in the places of the output and the time but folders. -/
theorem get?_fail (job : Job) (folder : String) (elapsed : Nat) (t : FileTree) (q : Place) :
    (fail job (job.outputPath folder) elapsed t).2.get? q =
      if (t.locate [] (job.outputPath folder) = .ok q ∨
          t.locate [] (timePath (job.outputPath folder)) = .ok q) ∧
        t.get? q ≠ some .folder then none else t.get? q := by
  have same := t.sameFolders_discard (timePath (job.outputPath folder))
  simp only [fail, get?_discard, FileTree.locate_iff same]
  by_cases output : t.locate [] (job.outputPath folder) = .ok q <;>
    by_cases time : t.locate [] (timePath (job.outputPath folder)) = .ok q <;>
      by_cases there : t.get? q = some .folder <;> simp [output, time, there]

theorem sameFolders_fail (job : Job) (output : String) (elapsed : Nat) (t : FileTree) :
    FileTree.SameFolders t (fail job output elapsed t).2 :=
  (t.sameFolders_discard _).trans (FileTree.sameFolders_discard _ _)

/-- A run that cannot begin ends there. -/
theorem run_of_refused {harness : Harness} {fault : RunFault}
    (refused : begin job folder t = .refused fault) :
    run harness folder job t = (.error fault, t) := by
  unfold run
  rw [refused]

/-- A run without an earlier result starts its harness. -/
theorem run_of_ready {harness : Harness} {start : FileTree}
    (ready : begin job folder t = .ready start) : run harness folder job t =
      if (harness job (job.outputPath folder) start).succeeded then
        complete job (job.outputPath folder) (harness job (job.outputPath folder) start).elapsed
          (harness job (job.outputPath folder) start).files
      else
        (.ok ⟨job, (harness job (job.outputPath folder) start).elapsed, none⟩,
          (fail job (job.outputPath folder) (harness job (job.outputPath folder) start).elapsed
            (harness job (job.outputPath folder) start).files).2) := by
  unfold run
  rw [ready]
  dsimp only [fail]

end Execution
end OrderTrials
