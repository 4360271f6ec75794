import Mathlib.Data.List.Perm.Basic
import OrderTrials.Proofs.Outputs
import OrderTrials.Proofs.Rerunning
/-
# Jobs in any order

A run looks at the places on the way to its output, at the output and at the time beside it, and
changes no others (`Execution.get?_run_of_not_mem`). Two jobs with different output paths share of
these the folders on their ways at most (`Execution.way_of_shared`). So the runs of other jobs can
do one thing to a job: make folders on its way (`Execution.Apart`). It answers then as it would have
answered first (`Execution.Apart.run`), and what a list of runs leaves is put together from what each
job would have left alone (`Execution.Merges`), in any order (`Execution.runAll_perm`).

A folder on the way matters if something lies behind it. With a path of the output folder that goes
into a missing folder and back, the results of earlier runs are hidden from the first job, and found
by the others (`Execution.runAll_hidden`).

Key definitions: `Execution.Harness.Local`, `Execution.Harness.Spares`, `Execution.footprint`,
`Execution.Apart`, `Execution.runAll`, `Execution.Merges`.
Key theorems: `Execution.way_of_shared`, `Execution.Apart.run`, `Execution.Merges.snoc`,
`Execution.runAll_perm`, `Execution.runAll_hidden`.
-/

namespace OrderTrials
namespace Execution

variable {harness : Harness} {folder : String} {job job' : Job} {jobs jobs' done : List Job}
  {t t' start start' files : FileTree} {q : Place}

/-! ### What a run looks at -/

/-- The places on the way to the output of a job, and those of the output and of the time. -/
def footprint (t : FileTree) (folder : String) (job : Job) : List Place :=
  t.wayOf (folderOf job folder) ++ [outputPlace t job folder, timePlace t job folder]

theorem mem_footprint : q ∈ footprint t folder job ↔
    q ∈ t.wayOf (folderOf job folder) ∨ q = outputPlace t job folder ∨
      q = timePlace t job folder := by
  simp only [footprint, List.mem_append, List.mem_cons, List.not_mem_nil, or_false]

theorem footprint_of_home (home : t'.home = t.home) :
    footprint t' folder job = footprint t folder job := by
  rw [footprint, footprint, FileTree.wayOf_of_home home, outputPlace_of_home home,
    timePlace_of_home home]

theorem wayOf_folderOf (t : FileTree) (job : Job) (folder : String) :
    t.wayOf (folderOf job folder) = t.wayOf folder ++ [t.goalOf (folderOf job folder)] :=
  FileTree.wayOf_join job.target.leads_slug

/-- What lies in the folder of a target is on the way to another one only if the path of the output
folder itself leads over it. -/
theorem mem_wayOf_of_beside {name : String}
    (h : t.goalOf (folderOf job folder) ++ [name] ∈ t.wayOf (folderOf job' folder)) :
    t.goalOf (folderOf job folder) ++ [name] ∈ t.wayOf folder := by
  rw [wayOf_folderOf, List.mem_append, List.mem_singleton] at h
  exact h.resolve_right (beside_ne_folder t job job' folder name)

theorem mem_wayOf_of_mem_wayOf (h : q ∈ t.wayOf folder) : q ∈ t.wayOf (folderOf job folder) := by
  rw [wayOf_folderOf]
  exact List.mem_append_left _ h

/-- **Jobs with different output paths share no places** but some on the ways of both. -/
theorem way_of_shared (other : job.outputPath folder ≠ job'.outputPath folder)
    (h : q ∈ footprint t folder job) (h' : q ∈ footprint t folder job') :
    q ∈ t.wayOf (folderOf job folder) ∧ q ∈ t.wayOf (folderOf job' folder) := by
  rcases mem_footprint.mp h with way | here | here <;>
    rcases mem_footprint.mp h' with way' | here' | here'
  · exact ⟨way, way'⟩
  · rw [here', outputPlace_eq] at way ⊢
    exact ⟨way, mem_wayOf_of_mem_wayOf (mem_wayOf_of_beside way)⟩
  · rw [here', timePlace_eq] at way ⊢
    exact ⟨way, mem_wayOf_of_mem_wayOf (mem_wayOf_of_beside way)⟩
  · rw [here, outputPlace_eq] at way' ⊢
    exact ⟨mem_wayOf_of_mem_wayOf (mem_wayOf_of_beside way'), way'⟩
  · exact absurd (outputPlace_injective (here.symm.trans here')) other
  · exact absurd (here.symm.trans here') (outputPlace_ne_timePlace t job job' folder)
  · rw [here, timePlace_eq] at way' ⊢
    exact ⟨mem_wayOf_of_mem_wayOf (mem_wayOf_of_beside way'), way'⟩
  · exact absurd (here'.symm.trans here) (outputPlace_ne_timePlace t job' job folder)
  · exact absurd (timePlace_injective (here.symm.trans here')) other

/-! ### What other jobs do to a job -/

/-- One tree is another one with folders made on the way to the output of a job, and other changes
elsewhere. -/
structure Apart (folder : String) (job : Job) (t t' : FileTree) : Prop where
  home : t'.home = t.home
  near : ∀ q ∈ footprint t folder job, t'.get? q = t.get? q ∨
    q ∈ t.wayOf (folderOf job folder) ∧ t.get? q = none ∧ t'.get? q = some .folder

/-- If the folders are all there, nothing is changed that a run looks at. -/
theorem Apart.alike (h : Apart folder job t t')
    (way : ∀ f ∈ t.wayOf (folderOf job folder), t.get? f = some .folder) :
    Alike job folder t t' := by
  have same (q : Place) (hq : q ∈ footprint t folder job) : t'.get? q = t.get? q := by
    refine (h.near q hq).resolve_right fun missing => ?_
    cases missing.2.1.symm.trans (way q missing.1)
  exact ⟨h.home, fun f hf => same f (mem_footprint.mpr (.inl hf)),
    same _ (mem_footprint.mpr (.inr (.inl rfl))), same _ (mem_footprint.mpr (.inr (.inr rfl)))⟩

/-- **An earlier result is found as before** as long as no output is hidden. -/
theorem Apart.reusable?_eq (h : Apart folder job t t')
    (exposed : t.Exposes (job.outputPath folder)) :
    reusable? job (job.outputPath folder) t' = reusable? job (job.outputPath folder) t := by
  by_cases way : ∀ f ∈ t.wayOf (folderOf job folder), t.get? f = some .folder
  · exact reusable?_congr (h.alike way)
  · -- with a folder missing there is no output, neither here nor there
    have before : t.hasFile (job.outputPath folder) ≠ true := by
      intro file
      obtain ⟨e, he, -⟩ := FileTree.hasFile_iff.mp file
      obtain ⟨p, hp, -⟩ := FileTree.find?_eq_some_iff.mp he
      exact way ((FileTree.locate_join_ok_iff (leads_outputName job)).mp hp).2.1
    have after : t'.hasFile (job.outputPath folder) ≠ true := by
      intro file
      obtain ⟨e, he, regular⟩ := FileTree.hasFile_iff.mp file
      obtain ⟨p, hp, there⟩ := FileTree.find?_eq_some_iff.mp he
      rw [← outputPlace_eq_of_locate hp, outputPlace_of_home h.home] at there
      rcases h.near _ (mem_footprint.mpr (.inr (.inl rfl))) with same | ⟨-, -, made⟩
      · refine way fun f hf => exposed ?_ f ?_
        · change t.get? (outputPlace t job folder) ≠ none
          rw [← same, there]
          nofun
        · rwa [outputPath_eq, FileTree.wayOf_join (leads_outputName job), List.dropLast_concat]
      · obtain rfl := Option.some.inj (made.symm.trans there)
        cases regular
    rw [reusable?, reusable?, if_neg before, if_neg after]

theorem Apart.open_iff (h : Apart folder job t t') :
    t'.Open (Path.origin [] (folderOf job folder)) (Path.steps (folderOf job folder)) ↔
      t.Open (Path.origin [] (folderOf job folder)) (Path.steps (folderOf job folder)) := by
  have near (f : Place) (hf : f ∈ t.wayOf (folderOf job folder)) :=
    h.near f (mem_footprint.mpr (.inl hf))
  constructor
  · rintro ⟨free, short⟩
    refine ⟨fun f hf => ?_, short⟩
    have after := free f (by rwa [FileTree.way_of_home h.home])
    rcases near f hf with same | ⟨-, missing, -⟩
    · rwa [same] at after
    · exact .inl missing
  · rintro ⟨free, short⟩
    refine ⟨fun f hf => ?_, short⟩
    rw [FileTree.way_of_home h.home] at hf
    rcases near f hf with same | ⟨-, -, made⟩
    · rw [same]
      exact free f hf
    · exact .inr made

/-- Once the folders are made a run finds what it would have found first. -/
theorem Apart.alike_of_lays (h : Apart folder job t t')
    (laid : FileTree.Lays t start (t.wayOf (folderOf job folder)))
    (laid' : FileTree.Lays t' start' (t'.wayOf (folderOf job folder))) :
    Alike job folder start start' := by
  rw [FileTree.wayOf_of_home h.home] at laid'
  have same (q : Place) (hq : q ∈ footprint t folder job) : start'.get? q = start.get? q := by
    rw [laid.get?_eq, laid'.get?_eq]
    split
    · rfl
    · rename_i off
      exact (h.near q hq).resolve_right fun made => off made.1
  have footprints : footprint start folder job = footprint t folder job :=
    footprint_of_home laid.home
  rw [← footprints] at same
  exact ⟨laid'.home.trans (h.home.trans laid.home.symm),
    fun f hf => same f (mem_footprint.mpr (.inl hf)), same _ (mem_footprint.mpr (.inr (.inl rfl))),
    same _ (mem_footprint.mpr (.inr (.inr rfl)))⟩

/-- **A job begins as it would have begun first.** -/
theorem Apart.begin_cases (h : Apart folder job t t')
    (exposed : t.Exposes (job.outputPath folder)) :
    (∃ f, begin job folder t = .reused f ∧ begin job folder t' = .reused f) ∨
      (∃ fault fault', begin job folder t = .refused fault ∧
        begin job folder t' = .refused fault') ∨
      ∃ start start', begin job folder t = .ready start ∧ begin job folder t' = .ready start' ∧
        Alike job folder start start' := by
  have found := h.reusable?_eq exposed
  cases hr : reusable? job (job.outputPath folder) t with
  | some f => exact .inl ⟨f, begin_eq_reused_iff.mpr hr, begin_eq_reused_iff.mpr (found.trans hr)⟩
  | none =>
    right
    cases hm : t.makeFolders (folderOf job folder) with
    | ok start =>
      obtain ⟨valid, opened, laid⟩ := FileTree.makeFolders_ok hm
      obtain ⟨start', hm'⟩ := FileTree.exists_makeFolders valid (h.open_iff.mpr opened)
      exact .inr ⟨start, start', begin_eq_ready_iff.mpr ⟨hr, hm⟩,
        begin_eq_ready_iff.mpr ⟨found.trans hr, hm'⟩,
        h.alike_of_lays laid (FileTree.makeFolders_ok hm').2.2⟩
    | error cause =>
      cases hm' : t'.makeFolders (folderOf job folder) with
      | ok start' =>
        obtain ⟨valid, opened, -⟩ := FileTree.makeFolders_ok hm'
        obtain ⟨start, made⟩ := FileTree.exists_makeFolders valid (h.open_iff.mp opened)
        cases hm.symm.trans made
      | error cause' =>
        have refused {t : FileTree} {cause : FileFault}
            (none : reusable? job (job.outputPath folder) t = none)
            (failed : t.makeFolders (folderOf job folder) = .error cause) :
            begin job folder t = .refused (.io (folderOf job folder) cause) := by
          unfold begin
          dsimp only
          rw [none, failed]
        exact .inl ⟨_, _, refused hr hm, refused (found.trans hr) hm'⟩

/-! ### Harnesses that touch their outputs alone -/

/-- A harness that depends on the job and its output, and changes nothing but that. -/
structure Harness.Local (harness : Harness) : Prop where
  home : ∀ job path t, (harness job path t).files.home = t.home
  others : ∀ job path t q, t.locate [] path ≠ .ok q →
    (harness job path t).files.get? q = t.get? q
  same : ∀ job path t t', t'.locate [] path = t.locate [] path →
    (∀ p, t.locate [] path = .ok p → t'.get? p = t.get? p) →
    (harness job path t').succeeded = (harness job path t).succeeded ∧
      ∀ p, t.locate [] path = .ok p →
        (harness job path t').files.get? p = (harness job path t).files.get? p

/-- If the path of the output folder itself leads over the place of the output of a job, the harness
leaves a folder there as it is. -/
def Harness.Spares (harness : Harness) (folder : String) (t : FileTree) (job : Job) : Prop :=
  outputPlace t job folder ∈ t.wayOf folder → ∀ start, start.home = t.home →
    start.get? (outputPlace t job folder) = some .folder →
    (harness job (job.outputPath folder) start).files.get? (outputPlace t job folder) = some .folder

/-- The folders on the way are still there when the harness has ended. -/
theorem Harness.Local.way (alone : harness.Local) (spares : harness.Spares folder t job)
    (home : start.home = t.home)
    (way : ∀ f ∈ t.wayOf (folderOf job folder), start.get? f = some .folder) :
    ∀ f ∈ t.wayOf (folderOf job folder),
      (harness job (job.outputPath folder) start).files.get? f = some .folder := by
  intro f hf
  by_cases here : f = outputPlace t job folder
  · have onWay := hf
    rw [here] at onWay ⊢
    refine spares ?_ start home (way _ onWay)
    rw [outputPlace_eq] at onWay ⊢
    exact mem_wayOf_of_beside onWay
  · rw [alone.others, way f hf]
    intro located
    refine here ?_
    rw [← outputPlace_eq_of_locate located, outputPlace_of_home home]

/-- A harness that starts on what looks the same does the same. -/
theorem Harness.Local.alike (alone : harness.Local) (h : Alike job folder start start')
    (way : ∀ f ∈ start.wayOf (folderOf job folder),
      (harness job (job.outputPath folder) start).files.get? f = some .folder ∧
        (harness job (job.outputPath folder) start').files.get? f = some .folder) :
    (harness job (job.outputPath folder) start').succeeded =
        (harness job (job.outputPath folder) start).succeeded ∧
      Alike job folder (harness job (job.outputPath folder) start).files
        (harness job (job.outputPath folder) start').files := by
  have located := h.locate_output
  obtain ⟨succeeded, output⟩ := alone.same job (job.outputPath folder) start start' located
    fun p hp => by rw [← outputPlace_eq_of_locate hp, h.output]
  have home := alone.home job (job.outputPath folder) start
  refine ⟨succeeded, (alone.home _ _ _).trans (h.home.trans home.symm), fun f hf => ?_, ?_, ?_⟩
  · rw [FileTree.wayOf_of_home home] at hf
    rw [(way f hf).1, (way f hf).2]
  · rw [outputPlace_of_home home]
    by_cases found : start.locate [] (job.outputPath folder) = .ok (outputPlace start job folder)
    · exact output _ found
    · have lost : start'.locate [] (job.outputPath folder) ≠
          .ok (outputPlace start job folder) := by rwa [located]
      rw [alone.others _ _ _ _ found, alone.others _ _ _ _ lost, h.output]
  · rw [timePlace_of_home home]
    have apart {t : FileTree} : t.locate [] (job.outputPath folder) =
        start.locate [] (job.outputPath folder) →
        t.locate [] (job.outputPath folder) ≠ .ok (timePlace start job folder) := by
      intro same found
      rw [same] at found
      exact outputPlace_ne_timePlace start job job folder (outputPlace_eq_of_locate found)
    rw [alone.others _ _ _ _ (apart rfl), alone.others _ _ _ _ (apart located), h.time]

/-! ### What a run changes -/

theorem run_home (alone : harness.Local) (job : Job) (t : FileTree) :
    (run harness folder job t).2.home = t.home := by
  cases ready : begin job folder t with
  | reused f => rw [run_of_reused ready]
  | refused fault => rw [run_of_refused ready]
  | ready start =>
    have laid := (FileTree.makeFolders_ok (begin_eq_ready_iff.mp ready).2).2.2
    have traced := (alone.home job (job.outputPath folder) start).trans laid.home
    rw [run_of_ready ready]
    split
    · exact (sameFolders_complete job folder _ _).1.home.trans traced
    · dsimp only
      exact (sameFolders_fail job _ _ _).1.home.trans traced

/-- **A run changes nothing but its footprint.** -/
theorem get?_run_of_not_mem (alone : harness.Local) (ready : begin job folder t = .ready start)
    (off : q ∉ footprint t folder job) : (run harness folder job t).2.get? q = t.get? q := by
  have laid := (FileTree.makeFolders_ok (begin_eq_ready_iff.mp ready).2).2.2
  simp only [mem_footprint, not_or] at off
  obtain ⟨way, output, time⟩ := off
  have home := (alone.home job (job.outputPath folder) start).trans laid.home
  have notOutput {t' : FileTree} (home : t'.home = t.home) :
      t'.locate [] (job.outputPath folder) ≠ .ok q := by
    intro found
    refine output ?_
    rw [← outputPlace_eq_of_locate found, outputPlace_of_home home]
  have notTime {t' : FileTree} (home : t'.home = t.home) :
      t'.locate [] (timePath (job.outputPath folder)) ≠ .ok q := by
    intro found
    refine time ?_
    rw [← timePlace_eq_of_locate found, timePlace_of_home home]
  have traced : (harness job (job.outputPath folder) start).files.get? q = t.get? q := by
    rw [alone.others _ _ _ _ (notOutput laid.home), laid.get?_of_not_mem way]
  rw [run_of_ready ready]
  split
  · rw [get?_complete, timePlace_of_home home, if_neg fun here => time here.1,
      if_neg (notOutput home), traced]
  · rw [get?_fail, if_neg fun here => here.1.elim (notOutput home) (notTime home), traced]

/-- After a run that started its harness there are folders on the way to the output. -/
theorem get?_run_of_way (alone : harness.Local) (spares : harness.Spares folder t job)
    (ready : begin job folder t = .ready start) (h : q ∈ t.wayOf (folderOf job folder)) :
    (run harness folder job t).2.get? q = some .folder := by
  have laid := (FileTree.makeFolders_ok (begin_eq_ready_iff.mp ready).2).2.2
  have traced := alone.way spares laid.home (fun f hf => laid.folder hf) q h
  rw [run_of_ready ready]
  split
  · exact (sameFolders_complete job folder _ _).1.folders q traced
  · dsimp only
    exact (sameFolders_fail job _ _ _).1.folders q traced

/-- At a place there is the same in two trees, or the times of two runs of a job. -/
def AgreeAt (times : List Place) (t t' : FileTree) (q : Place) : Prop :=
  t'.get? q = t.get? q ∨ q ∈ times ∧ t.isFile q = true ∧ t'.isFile q = true

theorem isFile_of_time {elapsed : Nat}
    (h : t.get? q = some (.file (Text.showNatural elapsed).toUTF8)) : t.isFile q = true := by
  rw [FileTree.isFile, h]

/-- **A run that starts on what looks the same** answers the same and leaves the same, but for the
time. -/
theorem run_alike (alone : harness.Local) (ready : begin job folder t = .ready start)
    (ready' : begin job folder t' = .ready start') (h : Alike job folder start start')
    (spares : harness.Spares folder t job) :
    outcome (run harness folder job t').1 = outcome (run harness folder job t).1 ∧
      ∀ q ∈ footprint t folder job, AgreeAt [timePlace t job folder]
        (run harness folder job t).2 (run harness folder job t').2 q := by
  have laid := (FileTree.makeFolders_ok (begin_eq_ready_iff.mp ready).2).2.2
  have folders (f : Place) (hf : f ∈ t.wayOf (folderOf job folder)) :
      start.get? f = some .folder := laid.folder hf
  have folders' (f : Place) (hf : f ∈ t.wayOf (folderOf job folder)) :
      start'.get? f = some .folder := by
    rw [← FileTree.wayOf_of_home laid.home] at hf
    rw [h.way f hf]
    exact folders f (FileTree.wayOf_of_home laid.home ▸ hf)
  have way := alone.way spares laid.home folders
  have way' := alone.way spares (h.home.trans laid.home) folders'
  obtain ⟨succeeded, alike⟩ := alone.alike h fun f hf => by
    rw [FileTree.wayOf_of_home laid.home] at hf
    exact ⟨way f hf, way' f hf⟩
  have home := (alone.home job (job.outputPath folder) start).trans laid.home
  have completes := completes_congr alike.home alike.way alike.time
  have same (q : Place) (hq : q ∈ footprint t folder job) :
      (harness job (job.outputPath folder) start').files.get? q =
        (harness job (job.outputPath folder) start).files.get? q := by
    rw [← footprint_of_home home] at hq
    rcases mem_footprint.mp hq with onWay | here | here
    · exact alike.way q onWay
    · rw [here, alike.output]
    · rw [here, alike.time]
  rw [run_of_ready ready, run_of_ready ready', succeeded]
  split
  · refine ⟨by rw [outcome_complete, outcome_complete]; simp only [completes], fun q hq => ?_⟩
    by_cases time : q = timePlace t job folder ∧
        Completes job folder (harness job (job.outputPath folder) start).files
    · refine .inr ⟨List.mem_singleton.mpr time.1, ?_, ?_⟩
      · refine isFile_of_time ((get?_complete job folder _ _ q).trans (if_pos ⟨?_, time.2⟩))
        rw [timePlace_of_home home, time.1]
      · refine isFile_of_time ((get?_complete job folder _ _ q).trans
          (if_pos ⟨?_, completes.mpr time.2⟩))
        rw [timePlace_of_home (alike.home.trans home), time.1]
    · left
      have time' : ¬ (q = timePlace t job folder ∧
          Completes job folder (harness job (job.outputPath folder) start').files) := by
        rwa [completes]
      rw [get?_complete, get?_complete, timePlace_of_home (alike.home.trans home),
        timePlace_of_home home, if_neg time, if_neg time', alike.locate_output, same q hq]
  · refine ⟨rfl, fun q hq => .inl ?_⟩
    rw [get?_fail, get?_fail, alike.locate_output, alike.locate_time, same q hq]

/-- **A job answers as it would have answered first,** and leaves what it would have left. -/
theorem Apart.run (h : Apart folder job t t') (alone : harness.Local)
    (spares : harness.Spares folder t job) (exposed : t.Exposes (job.outputPath folder)) :
    outcome (Execution.run harness folder job t').1 =
        outcome (Execution.run harness folder job t).1 ∧
      ((∃ start start', begin job folder t = .ready start ∧ begin job folder t' = .ready start' ∧
          ∀ q ∈ footprint t folder job, AgreeAt [timePlace t job folder]
            (Execution.run harness folder job t).2 (Execution.run harness folder job t').2 q) ∨
        (∀ start, begin job folder t ≠ .ready start) ∧
          (Execution.run harness folder job t').2 = t') := by
  rcases h.begin_cases exposed with ⟨f, reused, reused'⟩ | ⟨fault, fault', refused, refused'⟩ |
    ⟨start, start', ready, ready', alike⟩
  · rw [run_of_reused reused, run_of_reused reused']
    exact ⟨rfl, .inr ⟨fun start ready => (by cases reused.symm.trans ready), rfl⟩⟩
  · rw [run_of_refused refused, run_of_refused refused']
    exact ⟨rfl, .inr ⟨fun start ready => (by cases refused.symm.trans ready), rfl⟩⟩
  · obtain ⟨answers, leaves⟩ := run_alike alone ready ready' alike spares
    exact ⟨answers, .inl ⟨start, start', ready, ready', leaves⟩⟩

/-! ### Runs one after another -/

/-- Runs jobs one after another; the jobs with their answers, and the files. -/
def runAll (harness : Harness) (folder : String) : List Job → FileTree →
    List (Job × Except RunFault FinishedJob) × FileTree
  | [], t => ([], t)
  | job :: jobs, t =>
    let ran := run harness folder job t
    let others := runAll harness folder jobs ran.2
    ((job, ran.1) :: others.1, others.2)

/-- The outcomes of jobs. -/
def outcomes (answers : List (Job × Except RunFault FinishedJob)) :
    List (Job × Option (Option String)) :=
  answers.map fun answer => (answer.1, outcome answer.2)

theorem outcomes_cons (job : Job) (answer : Except RunFault FinishedJob)
    (answers : List (Job × Except RunFault FinishedJob)) :
    outcomes ((job, answer) :: answers) = (job, outcome answer) :: outcomes answers := rfl

theorem AgreeAt.get?_eq_folder {times : List Place} (h : AgreeAt times t t' q)
    (there : t.get? q = some .folder) : t'.get? q = some .folder := by
  rcases h with same | ⟨-, file, -⟩
  · rw [same, there]
  · rw [FileTree.isFile, there] at file
    cases file

theorem AgreeAt.of_subset {times times' : List Place} (h : AgreeAt times t t' q)
    (subset : times ⊆ times') : AgreeAt times' t t' q :=
  h.imp_right fun files => ⟨subset files.1, files.2⟩

/-- Trees that agree with a third one agree. -/
theorem AgreeAt.common {times : List Place} {s : FileTree} (h : AgreeAt times s t q)
    (h' : AgreeAt times s t' q) : AgreeAt times t t' q := by
  have carry {a b : FileTree} (same : b.get? q = a.get? q) (file : a.isFile q = true) :
      b.isFile q = true := by
    rwa [FileTree.isFile, same]
  rcases h with same | ⟨time, file, file'⟩
  · rcases h' with same' | ⟨time', file, file'⟩
    · exact .inl (same'.trans same.symm)
    · exact .inr ⟨time', carry same file, file'⟩
  · rcases h' with same' | ⟨-, -, file''⟩
    · exact .inr ⟨time, file', carry same' file⟩
    · exact .inr ⟨time, file', file''⟩

theorem AgreeAt.symm {times : List Place} (h : AgreeAt times t t' q) : AgreeAt times t' t q :=
  h.imp Eq.symm fun files => ⟨files.1, files.2.2, files.2.1⟩

theorem sameFolders_of_agree {times : List Place} (home : t'.home = t.home)
    (agree : ∀ q, AgreeAt times t t' q) : FileTree.SameFolders t t' :=
  ⟨⟨home, fun q => (agree q).get?_eq_folder⟩, ⟨home.symm, fun q => (agree q).symm.get?_eq_folder⟩⟩

/-- One tree is put together from what each of some jobs would have left of another one alone. -/
structure Merges (harness : Harness) (folder : String) (done : List Job) (t t' : FileTree) :
    Prop where
  home : t'.home = t.home
  left : ∀ job ∈ done, ∀ start, begin job folder t = .ready start →
    ∀ q ∈ footprint t folder job,
      AgreeAt [timePlace t job folder] (Execution.run harness folder job t).2 t' q
  rest : ∀ q, (∀ job ∈ done, ∀ start, begin job folder t = .ready start →
    q ∉ footprint t folder job) → t'.get? q = t.get? q

theorem Merges.nil (harness : Harness) (folder : String) (t : FileTree) :
    Merges harness folder [] t t :=
  ⟨rfl, nofun, fun _ _ => rfl⟩

/-- Other jobs make folders on the way to the output of a job at most. -/
theorem Merges.apart (h : Merges harness folder done t t') (alone : harness.Local)
    (spares : ∀ job ∈ done, harness.Spares folder t job)
    (other : ∀ job' ∈ done, job.outputPath folder ≠ job'.outputPath folder) :
    Apart folder job t t' := by
  refine ⟨h.home, fun q hq => ?_⟩
  by_cases touched : ∃ job' ∈ done, ∃ start, begin job' folder t = .ready start ∧
      q ∈ footprint t folder job'
  · obtain ⟨job', hjob, start, ready, hq'⟩ := touched
    obtain ⟨way, way'⟩ := way_of_shared (other job' hjob) hq hq'
    have made := (h.left job' hjob start ready q hq').get?_eq_folder
      (get?_run_of_way alone (spares job' hjob) ready way')
    have opened := (FileTree.makeFolders_ok (begin_eq_ready_iff.mp ready).2).2.1
    rcases opened.free q way' with missing | there
    · exact .inr ⟨way, missing, made⟩
    · exact .inl (made.trans there.symm)
  · push Not at touched
    exact .inl (h.rest q touched)

/-- **One more run** adds what the job would have left alone. -/
theorem Merges.snoc (h : Merges harness folder done t t') (alone : harness.Local)
    (spares : ∀ job' ∈ done ++ [job], harness.Spares folder t job')
    (other : ∀ job' ∈ done, job.outputPath folder ≠ job'.outputPath folder)
    (exposed : t.Exposes (job.outputPath folder)) :
    outcome (run harness folder job t').1 = outcome (run harness folder job t).1 ∧
      Merges harness folder (done ++ [job]) t (run harness folder job t').2 := by
  have own := spares job (List.mem_append_right _ List.mem_cons_self)
  have before := fun job' hjob => spares job' (List.mem_append_left _ hjob)
  have apart := h.apart alone before other
  obtain ⟨answers, ⟨start, start', ready, ready', leaves⟩ | ⟨idle, same⟩⟩ :=
    apart.run alone own exposed
  · have frame (q : Place) (hq : q ∉ footprint t folder job) :
        (run harness folder job t').2.get? q = t'.get? q :=
      get?_run_of_not_mem alone ready' (by rwa [footprint_of_home h.home])
    refine ⟨answers, (run_home alone job t').trans h.home, fun job' hjob first begun q hq => ?_,
      fun q off => ?_⟩
    · rcases List.mem_append.mp hjob with earlier | last
      · by_cases shared : q ∈ footprint t folder job
        · obtain ⟨way, way'⟩ := way_of_shared (other job' earlier) shared hq
          have now := (leaves q shared).get?_eq_folder (get?_run_of_way alone own ready way)
          exact .inl (now.trans (get?_run_of_way alone (before job' earlier) begun way').symm)
        · have agrees := h.left job' earlier first begun q hq
          rwa [AgreeAt, FileTree.isFile, FileTree.isFile, ← frame q shared] at agrees
      · obtain rfl := List.mem_singleton.mp last
        exact leaves q hq
    · have off' := off job (List.mem_append_right _ List.mem_cons_self) start ready
      rw [frame q off']
      exact h.rest q fun job' hjob => off job' (List.mem_append_left _ hjob)
  · rw [same]
    refine ⟨answers, h.home, fun job' hjob first begun => ?_, fun q off => ?_⟩
    · rcases List.mem_append.mp hjob with earlier | last
      · exact h.left job' earlier first begun
      · obtain rfl := List.mem_singleton.mp last
        exact absurd begun (idle first)
    · exact h.rest q fun job' hjob => off job' (List.mem_append_left _ hjob)

/-- **After all runs** each job has answered as it would have answered alone. -/
theorem runAll_merges (alone : harness.Local)
    (spares : ∀ job ∈ done ++ jobs, harness.Spares folder t job)
    (distinct : ((done ++ jobs).map (·.outputPath folder)).Nodup)
    (exposed : ∀ job ∈ jobs, t.Exposes (job.outputPath folder))
    (h : Merges harness folder done t t') :
    outcomes (runAll harness folder jobs t').1 =
        jobs.map (fun job => (job, outcome (run harness folder job t).1)) ∧
      Merges harness folder (done ++ jobs) t (runAll harness folder jobs t').2 := by
  induction jobs generalizing done t' with
  | nil =>
    rw [List.append_nil]
    exact ⟨rfl, h⟩
  | cons job jobs ih =>
    have parts : done ++ job :: jobs = done ++ [job] ++ jobs := by simp
    rw [parts] at spares distinct ⊢
    have other : ∀ job' ∈ done, job.outputPath folder ≠ job'.outputPath folder := by
      intro job' hjob same
      rw [List.map_append, List.map_append] at distinct
      have apart := (List.nodup_append.mp (List.nodup_append.mp distinct).1).2.2
        (job'.outputPath folder) (List.mem_map.mpr ⟨job', hjob, rfl⟩)
        (job.outputPath folder) (List.mem_map.mpr ⟨job, List.mem_singleton.mpr rfl, rfl⟩)
      exact apart same.symm
    obtain ⟨answer, next⟩ := h.snoc alone
      (fun job' hjob => spares job' (List.mem_append_left _ hjob)) other
      (exposed job List.mem_cons_self)
    obtain ⟨answers, merged⟩ := ih spares distinct
      (fun job' hjob => exposed job' (List.mem_cons_of_mem _ hjob)) next
    rw [runAll]
    dsimp only
    rw [List.map_cons, outcomes_cons, answer, answers]
    exact ⟨rfl, merged⟩

/-- What jobs answer and leave is put together from what each would have answered and left alone. -/
theorem runAll_alone (alone : harness.Local) (spares : ∀ job ∈ jobs, harness.Spares folder t job)
    (distinct : (jobs.map (·.outputPath folder)).Nodup)
    (exposed : ∀ job ∈ jobs, t.Exposes (job.outputPath folder)) :
    outcomes (runAll harness folder jobs t).1 =
        jobs.map (fun job => (job, outcome (run harness folder job t).1)) ∧
      Merges harness folder jobs t (runAll harness folder jobs t).2 := by
  refine runAll_merges alone ?_ ?_ exposed (Merges.nil harness folder t)
  · exact spares
  · exact distinct

/-- **Jobs can be run in any order.** Take jobs with pairwise different output paths, files in which
no output of theirs is hidden behind a missing folder, and a harness that depends on the job and its
output alone and changes nothing else. Run one after another in any order the jobs give the same
outcomes, with the same outputs, and leave the same at all places but those of their times, where
there are files in both or the same in both. -/
theorem runAll_perm (alone : harness.Local) (perm : jobs.Perm jobs')
    (distinct : (jobs.map (·.outputPath folder)).Nodup)
    (exposed : ∀ job ∈ jobs, files.Exposes (job.outputPath folder))
    (spares : ∀ job ∈ jobs, harness.Spares folder files job) :
    (outcomes (runAll harness folder jobs files).1).Perm
        (outcomes (runAll harness folder jobs' files).1) ∧
      (∀ job ∈ jobs, (runAll harness folder jobs' files).2.find? [] (job.outputPath folder) =
        (runAll harness folder jobs files).2.find? [] (job.outputPath folder)) ∧
      ∀ q, AgreeAt (jobs.map (timePlace files · folder)) (runAll harness folder jobs files).2
        (runAll harness folder jobs' files).2 q := by
  obtain ⟨answers, merged⟩ := runAll_alone alone spares distinct exposed
  obtain ⟨answers', merged'⟩ := runAll_alone alone
    (fun job hjob => spares job (perm.mem_iff.mpr hjob)) ((perm.map _).nodup_iff.mp distinct)
    (fun job hjob => exposed job (perm.mem_iff.mpr hjob))
  have agree (q : Place) : AgreeAt (jobs.map (timePlace files · folder))
      (runAll harness folder jobs files).2 (runAll harness folder jobs' files).2 q := by
    by_cases touched : ∃ job ∈ jobs, ∃ start, begin job folder files = .ready start ∧
        q ∈ footprint files folder job
    · obtain ⟨job, hjob, start, ready, hq⟩ := touched
      refine ((merged.left job hjob start ready q hq).common
        (merged'.left job (perm.mem_iff.mp hjob) start ready q hq)).of_subset ?_
      intro p hp
      rw [List.mem_singleton.mp hp]
      exact List.mem_map.mpr ⟨job, hjob, rfl⟩
    · push Not at touched
      refine .inl ((merged'.rest q fun job hjob => ?_).trans (merged.rest q touched).symm)
      exact touched job (perm.mem_iff.mpr hjob)
  refine ⟨?_, fun job hjob => ?_, agree⟩
  · rw [answers, answers']
    exact perm.map _
  · have home := merged'.home.trans merged.home.symm
    have located (p : Place) :
        (runAll harness folder jobs' files).2.locate [] (job.outputPath folder) = .ok p ↔
          (runAll harness folder jobs files).2.locate [] (job.outputPath folder) = .ok p :=
      FileTree.locate_iff (sameFolders_of_agree home agree)
    refine Option.ext fun e => ?_
    rw [FileTree.find?_eq_some_iff, FileTree.find?_eq_some_iff]
    refine exists_congr fun p => ?_
    rw [located]
    refine and_congr_right fun hp => ?_
    rw [(agree p).resolve_right fun time => ?_]
    obtain ⟨job', -, here⟩ := List.mem_map.mp time.1
    rw [← outputPlace_eq_of_locate hp, outputPlace_of_home merged.home] at here
    exact outputPlace_ne_timePlace files job job' folder here.symm

/-! ### The dials in two orders -/

theorem local_idle (succeeded : Bool) : (idle succeeded).Local where
  home _ _ _ := rfl
  others _ _ _ _ _ := rfl
  same _ _ _ _ _ same := ⟨rfl, same⟩

theorem local_writes (bytes : ByteArray) (succeeded : Bool) : (writes bytes succeeded).Local where
  home job path t := (tame_writes bytes succeeded job path t).home
  others job path t q off := by
    dsimp only [writes]
    rw [written_eq]
    split
    · rfl
    · split
      · rfl
      · rename_i p hp
        have apart : q ≠ p := fun here => off (here ▸ hp)
        split
        · rfl
        · rfl
        · exact t.get?_put_of_ne _ apart
  same job path t t' located same := by
    refine ⟨rfl, fun p hp => ?_⟩
    dsimp only [writes]
    rw [written_eq, written_eq, located, hp]
    split
    · exact same p hp
    · dsimp only
      rw [same p hp]
      split
      · exact same p hp
      · exact same p hp
      · rename_i noFolder noDevice
        have root := FileTree.isRoot_eq_false noFolder
        rw [t'.get?_put_self _ root, t.get?_put_self _ root]

/-- The job with the dials on another target. -/
def dialsTwin : Job := ⟨Configuration.dials, ⟨"q"⟩⟩

theorem runAll_perm_dials :
    (outcomes (runAll (writes "r".toUTF8 true) "out" [dialsJob, dialsTwin] .empty).1).Perm
        (outcomes (runAll (writes "r".toUTF8 true) "out" [dialsTwin, dialsJob] .empty).1) ∧
      ∀ job ∈ [dialsJob, dialsTwin],
        (runAll (writes "r".toUTF8 true) "out" [dialsTwin, dialsJob] .empty).2.find? []
            (job.outputPath "out") =
          (runAll (writes "r".toUTF8 true) "out" [dialsJob, dialsTwin] .empty).2.find? []
            (job.outputPath "out") := by
  have distinct : ([dialsJob, dialsTwin].map (·.outputPath "out")).Nodup := by decide +kernel
  have missing : ∀ job ∈ [dialsJob, dialsTwin],
      FileTree.empty.get? (FileTree.empty.goalOf (job.outputPath "out")) = none := by
    decide +kernel
  have off : ∀ job ∈ [dialsJob, dialsTwin],
      outputPlace FileTree.empty job "out" ∉ FileTree.empty.wayOf "out" := by decide +kernel
  obtain ⟨answers, outputs, -⟩ := runAll_perm (local_writes "r".toUTF8 true)
    (List.Perm.swap dialsTwin dialsJob []) distinct
    (fun job hjob there => absurd (missing job hjob) there)
    (fun job hjob on => absurd on (off job hjob))
  exact ⟨answers, outputs⟩

/-- A folder that is reached through one that is missing. -/
def detour : String := "a/.."

/-- Both outputs, with their times. -/
def dialsDone : FileTree :=
  [dialsJob, dialsTwin].foldl (fun t job =>
    (t.layFile (job.outputPath "") "e".toUTF8).layFile (timePath (job.outputPath "")) "5".toUTF8)
    .empty

/-- A harness that puts a file in place of whatever lies in the place of its output. -/
def razes : Harness := fun _ path t =>
  ⟨true, 0, match t.locate [] path with
    | .ok p => t.put p (.file .empty)
    | .error _ => t⟩

theorem local_razes : razes.Local where
  home job path t := by
    dsimp only [razes]
    cases t.locate [] path <;> rfl
  others job path t q off := by
    dsimp only [razes]
    split
    · rename_i p hp
      exact t.get?_put_of_ne _ fun here => off (here ▸ hp)
    · rfl
  same job path t t' located same := by
    refine ⟨rfl, fun p hp => ?_⟩
    have here := same p hp
    dsimp only [razes]
    rw [located, hp]
    cases root : FileTree.isRoot p with
    | true => simp only [FileTree.get?, root, if_true]
    | false => exact (t'.get?_put_self _ root).trans (t.get?_put_self _ root).symm

/-- The path of the folder for which the output of the dials lies on the way. -/
def overOutput : String := dialsJob.outputPath "" ++ "/../.."

/-- **The order of jobs matters** if earlier results are hidden behind a missing folder: the first
job is run again, and the others are not. It matters also if the path of the output folder leads
over the place of an output and a harness puts a file there. -/
theorem runAll_hidden :
    ((idle false).Local ∧ ([dialsJob, dialsTwin].map (·.outputPath detour)).Nodup ∧
      outcomes (runAll (idle false) detour [dialsJob, dialsTwin] dialsDone).1 =
        [(dialsJob, some none), (dialsTwin, some (some (dialsTwin.outputPath detour)))] ∧
      outcomes (runAll (idle false) detour [dialsTwin, dialsJob] dialsDone).1 =
        [(dialsTwin, some none), (dialsJob, some (some (dialsJob.outputPath detour)))]) ∧
    razes.Local ∧ ([dialsJob, dialsTwin].map (·.outputPath overOutput)).Nodup ∧
      outcomes (runAll razes overOutput [dialsJob, dialsTwin] .empty).1 =
        [(dialsJob, none), (dialsTwin, none)] ∧
      outcomes (runAll razes overOutput [dialsTwin, dialsJob] .empty).1 =
        [(dialsTwin, some (some (dialsTwin.outputPath overOutput))), (dialsJob, none)] := by
  refine ⟨⟨local_idle false, ?_⟩, local_razes, ?_⟩ <;> decide +kernel

end Execution
end OrderTrials
