import OrderTrials.Execution.Command
import OrderTrials.Machine.Launching
import OrderTrials.Proofs.Outputs
import OrderTrials.Proofs.Rerunning
/-
# Paths seen from two folders

A command that writes its own output is told the path at which the runner looks for it, and follows
this path from the folder that it is started in. Both mean one file exactly if the path of the
target's folder leads to one place from both (`Execution.locate_output_iff`). This is so if the path
of the output folder is absolute, or the command is started in the folder of the runner. A relative
path that never leads back leads to different places from different folders
(`FileTree.goal_ne_of_down`), and then an empty file is taken for what the command has written
(`Template.result_of_written`).

Key definitions: `FileTree.Down`, `Template.scribe`.
Key theorems: `FileTree.goal_ne_of_down`, `Execution.locate_output_iff`, `Template.run_of_ready`,
`Template.result_of_written`, `Template.means_output`, `Template.written_elsewhere`.
-/

namespace OrderTrials

/-! ### Paths that lead down -/

namespace FileTree

variable {t : FileTree} {here p q : Place} {s : List (List Char)} {path : String}

theorem settled_of_walk (fixed : t.settled p = p) (h : t.walk p s = .ok q) : t.settled q = q := by
  induction s generalizing p with
  | nil =>
    obtain rfl := Except.ok.inj h
    exact fixed
  | cons c s ih =>
    rw [walk] at h
    split at h
    · cases h
    · split at h
      · cases h
      · exact ih (t.settled_settled _) h
    · cases h

/-- A path leads to a folder from which paths are followed in turn. -/
theorem Stands.of_locate (h : t.Stands here) (found : t.locate here path = .ok q)
    (folder : t.get? q = some .folder) : t.Stands q := by
  refine ⟨folder, ?_⟩
  unfold locate at found
  split at found
  · cases found
  · split at found
    · cases found
    · split at found
      · cases found
      · exact settled_of_walk (h.origin path).settled found

/-- Segments that are names of files and folders. -/
def Down (s : List (List Char)) : Prop := ∀ c ∈ s, Path.isStep c = true ∧ c ≠ ['.', '.']

theorem Down.follow {c : List Char} (down : Down (c :: s)) (p : Place) :
    Path.follow p c = p ++ [String.ofList c] := by
  obtain ⟨step, up⟩ := down c List.mem_cons_self
  have on : c ≠ [] ∧ c ≠ ['.'] := by simpa [Path.isStep] using step
  rw [Path.follow, if_neg (not_or.mpr on), if_neg up]

/-- In any folder but the one above the working folder, names lead on from it. -/
theorem goal_of_down (down : Down s) (other : p ≠ [".."]) :
    t.goal p s = p ++ s.map String.ofList := by
  induction s generalizing p with
  | nil => exact (List.append_nil p).symm
  | cons c s ih =>
    have up : p ++ [String.ofList c] ≠ [".."] := by
      intro same
      have last : String.ofList c = ".." := by simpa using congrArg List.getLast? same
      exact (down c List.mem_cons_self).2 (String.ofList_injective last)
    rw [goal, down.follow, Execution.settled_beside other,
      ih (fun d hd => down d (List.mem_cons_of_mem c hd)) up, List.append_assoc]
    rfl

/-- **Names lead to different places** from the working folder and from any other folder. -/
theorem goal_ne_of_down (down : Down s) (away : here ≠ []) : t.goal here s ≠ t.goal [] s := by
  rw [goal_of_down down (List.cons_ne_nil _ _).symm, List.nil_append]
  by_cases above : here = [".."]
  · subst above
    cases s with
    | nil => exact away
    | cons c s =>
      have rest : Down s := fun d hd => down d (List.mem_cons_of_mem c hd)
      have length (p : Place) (other : p ≠ [".."]) (h : p.length ≠ 1) :
          t.goal p s ≠ (c :: s).map String.ofList := by
        rw [goal_of_down rest other]
        intro same
        have lengths := congrArg List.length same
        simp only [List.length_append, List.length_map, List.length_cons] at lengths
        omega
      -- the name may be that of the working folder itself
      rw [goal, down.follow]
      rcases t.settled_cases ([".."] ++ [String.ofList c]) with same | home
      · rw [same]
        exact length _ (by simp) (by simp)
      · rw [home]
        exact length _ (by simp) (by simp)
  · rw [goal_of_down down above]
    exact fun same => away (List.append_left_eq_self.mp same)

/-- In a place that was free, a write leaves what it has written if its path leads there. -/
theorem get?_writeFrom {t' : FileTree} {bytes : ByteArray}
    (h : t.writeFrom here path bytes = .ok t') (free : t.get? p = none) :
    t'.get? p = if t.locate here path = .ok p then some (.file bytes) else none := by
  obtain ⟨q, hq, noFolder, kept⟩ := writeFrom_ok h
  rw [hq]
  by_cases there : q = p
  · subst there
    rcases kept with ⟨device, -⟩ | ⟨-, rfl⟩
    · cases free.symm.trans device
    · rw [if_pos rfl, get?_put_self t _ (isRoot_eq_false noFolder)]
  · rw [if_neg fun same => there (Except.ok.inj same)]
    rcases kept with ⟨-, rfl⟩ | ⟨-, rfl⟩
    · exact free
    · rw [get?_put_of_ne t _ (Ne.symm there), free]

end FileTree

theorem Machine.stands_of_folderOf {t : FileTree} {folder : Option String} {here : Place}
    (h : folderOf t folder = .ok here) : t.Stands here := by
  cases folder with
  | none =>
    obtain rfl := Except.ok.inj h
    exact t.stands_nil
  | some path =>
    unfold folderOf at h
    dsimp only at h
    split at h
    · cases h
    · rename_i place found
      split at h
      · rename_i isFolder
        obtain rfl := Except.ok.inj h
        exact t.stands_nil.of_locate found isFolder
      · cases h
      · cases h

/-! ### Where an output lies for a program -/

namespace Execution

open Path

variable {t : FileTree} {here p q : Place} {job : Job} {folder : String}

/-- From any folder, the path of an output leads into the folder to which the path of the target's
folder leads. -/
theorem locate_output_ok_iff (h : t.Stands here) (valid : Valid (job.outputPath folder))
    (short : isTooLong (outputName job).toList = false) :
    t.locate here (job.outputPath folder) = .ok q ↔
      ∃ p, t.locate here (folderOf job folder) = .ok p ∧ t.get? p = some .folder ∧
        q = p ++ [outputName job] := by
  have slug := job.target.leads_slug
  have target (p : Place) : t.locate here (folderOf job folder) = .ok p ↔ Valid (folderOf job folder) ∧
      (∀ f ∈ t.way (origin here folder) (steps folder), t.get? f = some .folder) ∧
      (∀ d ∈ steps folder ++ [job.target.slug.toList], isTooLong d = false) ∧
      p = t.goal (origin here folder) (steps folder ++ [job.target.slug.toList]) :=
    h.locate_join_ok_iff slug
  have beside : t.goal (origin here folder)
      (steps folder ++ [job.target.slug.toList] ++ [(outputName job).toList]) =
      t.goal (origin here folder) (steps folder ++ [job.target.slug.toList]) ++
        [outputName job] := by
    have into (p : Place) {name : String} (leads : Leads name.toList) :
        t.goal p [name.toList] = t.settled (p ++ [name]) := by
      rw [FileTree.goal, FileTree.goal, leads.follow, String.ofList_toList]
    rw [FileTree.goal_append, into _ (leads_outputName job), settled_beside]
    rw [FileTree.goal_append, into _ slug]
    exact settled_ne_up t _ slug
  rw [outputPath_eq] at valid ⊢
  rw [h.locate_join_ok_iff (leads_outputName job), folderOf, origin_join folder slug,
    steps_join folder slug, FileTree.way_snoc, List.forall_mem_append, List.forall_mem_append,
    beside]
  constructor
  · rintro ⟨-, ⟨way, last⟩, ⟨names, -⟩, rfl⟩
    exact ⟨_, (target _).mpr ⟨valid.of_join (leads_outputName job).isAbsolute, way, names, rfl⟩,
      last _ (List.mem_singleton_self _), rfl⟩
  · rintro ⟨p, found, there, rfl⟩
    obtain ⟨-, way, names, rfl⟩ := (target p).mp found
    exact ⟨valid, ⟨way, fun f hf => List.mem_singleton.mp hf ▸ there⟩,
      ⟨names, fun d hd => List.mem_singleton.mp hd ▸ short⟩, rfl⟩

/-- **Two folders mean one output** exactly if they mean one folder for the target. -/
theorem locate_output_iff (h : t.Stands here) (found : t.locate [] (job.outputPath folder) = .ok p) :
    t.locate here (job.outputPath folder) = .ok p ↔
      t.locate here (folderOf job folder) = t.locate [] (folderOf job folder) := by
  obtain ⟨valid, -, short, -⟩ := (FileTree.locate_join_ok_iff (leads_outputName job)).mp found
  have short := short _ (List.mem_append_right _ (List.mem_singleton_self _))
  obtain ⟨target, foundTarget, there, inTarget⟩ :=
    (locate_output_ok_iff t.stands_nil valid short).mp found
  rw [locate_output_ok_iff h valid short, foundTarget]
  constructor
  · rintro ⟨other, foundOther, -, inOther⟩
    rw [inTarget] at inOther
    rw [foundOther, (beside_injective inOther).1]
  · intro same
    exact ⟨target, same, there, inTarget⟩

/-- From another folder, a relative path that never leads back means another output. -/
theorem locate_output_ne (h : t.Stands here) (relative : isAbsolute folder = false)
    (straight : ['.', '.'] ∉ steps folder) (away : here ≠ [])
    (found : t.locate [] (job.outputPath folder) = .ok p) :
    t.locate here (job.outputPath folder) ≠ .ok p := by
  have slug := job.target.leads_slug
  have start (base : Place) : origin base (folderOf job folder) = base := by
    rw [folderOf, origin_join folder slug, origin, relative]
    rfl
  have goal {base : Place} (stands : t.Stands base)
      (found : t.locate base (job.outputPath folder) = .ok p) :
      p = t.goal base (steps (folderOf job folder) ++ [(outputName job).toList]) := by
    rw [← start base]
    exact ((stands.locate_join_ok_iff (leads_outputName job)).mp found).2.2.2
  have down : FileTree.Down (steps (folderOf job folder) ++ [(outputName job).toList]) := by
    intro c hc
    rw [folderOf, steps_join folder slug, List.mem_append, List.mem_append, List.mem_singleton,
      List.mem_singleton] at hc
    rcases hc with (hc | rfl) | rfl
    · rw [steps_eq_filter] at hc straight
      exact ⟨(List.mem_filter.mp hc).2, fun up => straight (up ▸ hc)⟩
    · exact ⟨slug.isStep, slug.2.2.2⟩
    · exact ⟨(leads_outputName job).isStep, (leads_outputName job).2.2.2⟩
  intro same
  exact FileTree.goal_ne_of_down down away ((goal h same).symm.trans (goal t.stands_nil found))

end Execution

/-! ### Commands that write their own output -/

namespace Template

open Execution

variable {t : Template} {s : Space} {job : Job} {folder program : String}
  {arguments : List String} {launcher : Launcher} {before files : FileTree} {o : Outcome}
  {here p : Place} {bytes : ByteArray}

/-- **A command that is told the path of its output** is run, and what it leaves is completed or
cleared away. -/
theorem run_of_ready (ready : begin job folder before = .ready files)
    (writes : t.writesOutput = true)
    (words : t.words s job (job.outputPath folder) = program :: arguments)
    (launched : launcher ⟨program, arguments, t.folder⟩ (some (Launch.lastLook t.limit)) files =
      .ok o) :
    t.run launcher s folder job before =
      if o.ending.succeeded then complete job (job.outputPath folder) o.elapsed o.files
      else (.ok ⟨job, o.elapsed, none⟩, (fail job (job.outputPath folder) o.elapsed o.files).2) := by
  unfold run
  rw [ready]
  dsimp only
  rw [words]
  dsimp only [start]
  rw [writes, if_pos rfl]
  dsimp only
  rw [launched]
  dsimp only
  rw [collected, writes, if_pos rfl]
  dsimp only [fail]

/-- **What is taken for the output.** Let a command end well that has written some bytes to the path
it was told, as it is seen from the folder of the command. The runner finds these bytes if the path
means one file for both, and else it finds an empty file. -/
theorem result_of_written (ready : begin job folder before = .ready files)
    (writes : t.writesOutput = true)
    (words : t.words s job (job.outputPath folder) = program :: arguments)
    (launched : launcher ⟨program, arguments, t.folder⟩ (some (Launch.lastLook t.limit)) files =
      .ok o) (well : o.ending.succeeded = true)
    (wrote : files.writeFrom here (job.outputPath folder) bytes = .ok o.files)
    (completes : Completes job folder files)
    (fresh : files.get? (outputPlace files job folder) = none) :
    outcome (t.run launcher s folder job before).1 = some (some (job.outputPath folder)) ∧
      (t.run launcher s folder job before).2.find? [] (job.outputPath folder) =
        if files.locate here (job.outputPath folder) = .ok (outputPlace files job folder) then
          some (.file bytes)
        else some (.file .empty) := by
  have same := FileTree.sameFolders_writeFrom wrote
  have still := completes.of_sameFolders same
  rw [run_of_ready ready writes words launched, if_pos well, outcome_complete, if_pos still,
    find?_complete o.elapsed still, outputPlace_of_home same.1.home,
    FileTree.get?_writeFrom wrote fresh]
  refine ⟨rfl, ?_⟩
  split <;> rfl

/-- **Which file a command means by its output.** Let a command be started in some folder, and let
the path of the output of a job lead somewhere for the runner. For the command it leads there
exactly if the path of the target's folder leads to one place for both. It does if the path of the
output folder is absolute or if the command is started in the folder of the runner, as without a
setting of its own. If the path of the output folder is relative and never leads back, it does so
only then. -/
theorem means_output (t : Template) (started : Machine.folderOf files t.folder = .ok here)
    (found : files.locate [] (job.outputPath folder) = .ok p) :
    (files.locate here (job.outputPath folder) = .ok p ↔
      files.locate here (folderOf job folder) = files.locate [] (folderOf job folder)) ∧
    (Path.isAbsolute folder = true ∨ here = [] ∨ t.folder = none →
      files.locate here (job.outputPath folder) = .ok p) ∧
    (Path.isAbsolute folder = false → ['.', '.'] ∉ Path.steps folder →
      (files.locate here (job.outputPath folder) = .ok p ↔ here = [])) := by
  have stands := Machine.stands_of_folderOf started
  have settled : Path.isAbsolute folder = true ∨ here = [] ∨ t.folder = none →
      files.locate here (job.outputPath folder) = .ok p := by
    rintro (absolute | rfl | unset)
    · have origin : Path.origin here (folderOf job folder) = Path.origin [] (folderOf job folder) := by
        rw [folderOf, Path.origin_join folder job.target.leads_slug, Path.origin_join folder
          job.target.leads_slug, Path.origin, Path.origin, if_pos absolute, if_pos absolute]
      refine (locate_output_iff stands found).mpr ?_
      rw [FileTree.locate, FileTree.locate, origin]
    · exact found
    · rw [unset] at started
      obtain rfl := Except.ok.inj started
      exact found
  refine ⟨locate_output_iff stands found, settled, fun relative straight => ?_⟩
  constructor
  · intro same
    by_contra away
    exact locate_output_ne stands relative straight away found same
  · rintro rfl
    exact found

/-- Starts a program that writes some bytes to the path that is its first argument. -/
def scribe (bytes : ByteArray) : Launcher := fun l _ files =>
  match Machine.folderOf files l.folder with
  | .error _ => .error "No such file or directory (os error 2)"
  | .ok here =>
    match files.writeFrom here (l.arguments.head?.getD "") bytes with
    | .ok files => .ok ⟨.exited 0, .empty, .empty, 50, files⟩
    | .error _ => .ok ⟨.exited 1, .empty, .empty, 50, files⟩

/-- A command that is told the path of its output and nothing else. -/
def scribeIn (folder : Option String) : Template :=
  ⟨["scribe", "\x7boutput\x7d"], folder, 1000⟩

/-- A folder of the target below the root, the working folder and a folder in it. -/
def twoDesks : FileTree :=
  ["/out", "out", "w/out"].foldl (fun t folder => t.layFolder (folderOf dialsJob folder)) .empty

theorem means_output_twoDesks :
    twoDesks.locate ["w"] (dialsJob.outputPath "/out") =
        .ok (outputPlace twoDesks dialsJob "/out") ∧
      twoDesks.locate [] dialsOutput = .ok (outputPlace twoDesks dialsJob "out") ∧
      twoDesks.locate ["w"] dialsOutput ≠ .ok (outputPlace twoDesks dialsJob "out") := by
  have started : Machine.folderOf twoDesks (scribeIn (some "w")).folder = .ok ["w"] := by
    decide +kernel
  have absolute : twoDesks.locate [] (dialsJob.outputPath "/out") =
      .ok (outputPlace twoDesks dialsJob "/out") := by decide +kernel
  have relative : twoDesks.locate [] (dialsJob.outputPath "out") =
      .ok (outputPlace twoDesks dialsJob "out") := by decide +kernel
  obtain ⟨-, settled, -⟩ := means_output (scribeIn (some "w")) started absolute
  obtain ⟨-, -, only⟩ := means_output (scribeIn (some "w")) started relative
  refine ⟨settled (.inl (by decide +kernel)), relative, fun same => ?_⟩
  cases (only (by decide +kernel) (by decide +kernel)).mp same

/-- **Written in one place and looked for in another.** A command that is started in another folder
writes what it has found to the path that it is told, and ends well. The path means another file for
the runner, which makes an empty one and takes it for the result. Started in the folder of the
runner, the command yields what it has found. -/
theorem written_elsewhere :
    let found := "found".toUTF8
    let space := Configuration.dialsSpace
    let away := (scribeIn (some "w")).run (scribe found) space "out" dialsJob twoDesks
    let home := (scribeIn none).run (scribe found) space "out" dialsJob twoDesks
    (scribeIn (some "w")).writesOutput = true ∧
      Machine.folderOf twoDesks (some "w") = .ok ["w"] ∧
      twoDesks.locate ["w"] dialsOutput ≠ twoDesks.locate [] dialsOutput ∧
      outcome away.1 = some (some dialsOutput) ∧
      away.2.find? [] dialsOutput = some (.file .empty) ∧
      away.2.find? ["w"] dialsOutput = some (.file found) ∧
      outcome home.1 = some (some dialsOutput) ∧
      home.2.find? [] dialsOutput = some (.file found) := by
  decide +kernel

end Template
end OrderTrials
