import OrderTrials.Proofs.Knowing
import OrderTrials.Proofs.Placing
import OrderTrials.Proofs.Rendering
/-
# Jobs that are run again

A run is taken as completed if its output is a file and the time beside it can be read. A run that
succeeds leaves both, and the numeral of the time reads back (`Execution.complete_ok`); a run that
fails leaves neither (`Execution.fail_ok`), and the folder for the output is still there
(`FileTree.makeFolders_again`). So after a success every later run finds the result, and after a
failure the next run starts its harness (`Execution.run_settled`).

Both rest on harnesses that change files alone, and on files in the two places. A folder in the
place of an output passes for an output when a run ends, and not when the next one begins, and a
failed run cannot remove it (`Execution.run_unsettled`).

Key definitions: `Execution.Harness.Tame`, `Execution.Clear`, `Execution.rerun`.
Key theorems: `Execution.recordedTime?_of_read`, `Execution.complete_ok`, `Execution.fail_ok`,
`Execution.run_cases`, `Execution.rerun_of_reused`, `Execution.run_settled`,
`Execution.run_unsettled`.
-/

namespace OrderTrials

/-! ### Times read back -/

namespace Text

theorem readNatural_digits (n : Nat) : readNatural (digits n) = some n := by
  obtain ⟨c, r, hc⟩ := List.exists_cons_of_ne_nil (digits_ne_nil n)
  have digit : c.isDigit = true := isDigit_of_mem_digits (n := n) (hc ▸ List.mem_cons_self)
  unfold readNatural
  split
  · rename_i h
    obtain rfl : c = '+' := (List.cons.inj (hc.symm.trans h)).1
    exact absurd digit (by decide)
  · exact readDigits_digits n

theorem readUnsigned_showNatural {n : Nat} (h : n < 18446744073709551616) :
    readUnsigned (showNatural n) = some n := by
  rw [readUnsigned, showNatural, String.toList_ofList, readNatural_digits, Option.filter_some,
    if_pos (decide_eq_true h)]

/-- A text without white space is not trimmed. -/
theorem trim_of_none {w : String} (h : ∀ c ∈ w.toList, isBlank c = false) : trim w = w := by
  have kept (s : List Char) (hs : ∀ c ∈ s, isBlank c = false) : s.dropWhile isBlank = s := by
    cases s with
    | nil => rfl
    | cons c r => rw [List.dropWhile_cons_of_neg (by simp [hs c List.mem_cons_self])]
  rw [trim, trimBlank, kept _ h, kept _ fun c hc => h c (List.mem_reverse.mp hc),
    List.reverse_reverse, String.ofList_toList]

theorem trim_showNatural (n : Nat) : trim (showNatural n) = showNatural n := by
  refine trim_of_none fun c hc => ?_
  rw [showNatural, String.toList_ofList] at hc
  exact isBlank_of_isDigit (isDigit_of_mem_digits hc)

end Text

namespace Execution

variable {job : Job} {folder path : String} {elapsed : Nat} {files files' start : FileTree}
  {f : FinishedJob} {harness : Harness}

/-- **The time that was recorded is the time that is read.** -/
theorem recordedTime?_of_read (short : elapsed < 18446744073709551616)
    (h : files.read (timePath path) = .ok (Text.showNatural elapsed).toUTF8) :
    recordedTime? files path = some elapsed := by
  unfold recordedTime?
  rw [h]
  simp only [fromUTF8?_toUTF8, Option.bind_some, Text.trim_showNatural,
    Text.readUnsigned_showNatural short]

/-! ### How a run begins and ends -/

theorem reusable?_eq_some_iff : reusable? job path files = some f ↔
    files.hasFile path = true ∧
      ∃ e, recordedTime? files path = some e ∧ f = ⟨job, e, some path⟩ := by
  unfold reusable?
  split
  · rename_i there
    rw [Option.map_eq_some_iff]
    simp only [there, true_and, eq_comm]
  · rename_i absent
    simp [absent]

theorem begin_eq_reused_iff :
    begin job folder files = .reused f ↔ reusable? job (job.outputPath folder) files = some f := by
  unfold begin
  dsimp only
  split
  · rename_i g found
    simp [found]
  · rename_i missing
    split <;> simp_all

theorem begin_eq_ready_iff : begin job folder files = .ready start ↔
    reusable? job (job.outputPath folder) files = none ∧
      files.makeFolders (folderOf job folder) = .ok start := by
  unfold begin
  dsimp only
  split
  · rename_i g found
    simp [found]
  · rename_i missing
    split <;> simp_all

/-- Once an output has been made sure of, there is a file in its place, or what has been there
before. -/
theorem find?_of_made {made : FileTree}
    (h : (if files.has path then .ok files else files.write path .empty) = .ok made) :
    ∃ e, made.find? [] path = some e ∧ (e.isRegular = true ∨ files.find? [] path = some e) := by
  split at h
  · rename_i there
    obtain rfl := Except.ok.inj h
    obtain ⟨e, he⟩ := FileTree.has_iff.mp there
    exact ⟨e, he, .inr he⟩
  · rename_i absent
    obtain ⟨q, hq, noFolder, ⟨device, -⟩ | ⟨-, rfl⟩⟩ := FileTree.write_ok h
    · have there := FileTree.has_iff.mpr ⟨_, FileTree.find?_eq_some_iff.mpr ⟨q, hq, device⟩⟩
      exact absurd there absent
    · have same := FileTree.sameFolders_put (e := .file .empty) noFolder nofun
      exact ⟨_, FileTree.find?_eq_some_iff.mpr ⟨q, same.1.locate hq,
        FileTree.get?_put_self files _ (FileTree.isRoot_eq_false noFolder)⟩, .inl rfl⟩

/-- The time that is put beside an output can be read, and the output stays as it is. -/
theorem read_of_replace {bytes : ByteArray}
    (h : files.replace (timePath (job.outputPath folder)) bytes = .ok files') :
    files'.read (timePath (job.outputPath folder)) = .ok bytes ∧
      ∀ e, files.find? [] (job.outputPath folder) = some e →
        files'.find? [] (job.outputPath folder) = some e := by
  obtain ⟨q', hq', noFolder, rfl⟩ := FileTree.replace_ok h
  have same := FileTree.sameFolders_put (e := .file bytes) noFolder nofun
  constructor
  · rw [FileTree.read, FileTree.readFrom, same.1.locate hq']
    simp only [FileTree.get?_put_self files _ (FileTree.isRoot_eq_false noFolder)]
  · intro e he
    obtain ⟨q, hq, found⟩ := FileTree.find?_eq_some_iff.mp he
    have apart : q ≠ q' := by
      by_cases file : files.get? q = some .folder
      · rintro rfl
        exact noFolder file
      · exact place_ne_timePath job folder hq hq' file
    refine FileTree.find?_eq_some_iff.mpr ⟨q, same.1.locate hq, ?_⟩
    rw [FileTree.get?_put_of_ne files _ apart, found]

/-- **A run that is completed** leaves its time, and something in the place of the output: a file,
or what has been there before. -/
theorem complete_ok
    (h : complete job (job.outputPath folder) elapsed files = (.ok f, files')) :
    f = ⟨job, elapsed, some (job.outputPath folder)⟩ ∧
      files'.read (timePath (job.outputPath folder)) = .ok (Text.showNatural elapsed).toUTF8 ∧
      ∃ e, files'.find? [] (job.outputPath folder) = some e ∧
        (e.isRegular = true ∨ files.find? [] (job.outputPath folder) = some e) := by
  unfold complete at h
  split at h
  · cases h
  · rename_i made hmade
    obtain ⟨e, he, kind⟩ := find?_of_made hmade
    split at h
    · cases h
    · rename_i done hdone
      obtain ⟨result, rfl⟩ := Prod.mk.inj h
      obtain ⟨written, stays⟩ := read_of_replace hdone
      exact ⟨(Except.ok.inj result).symm, written, e, stays e he, kind⟩

/-- **A run that fails** leaves nothing but folders in the two places. -/
theorem fail_ok (h : fail job path elapsed files = (f, files')) :
    f = ⟨job, elapsed, none⟩ ∧ FileTree.SameFolders files files' ∧
      ∀ place ∈ [path, timePath path], ∀ e, files'.find? [] place = some e →
        e = .folder ∧ files.find? [] place = some .folder := by
  obtain ⟨rfl, rfl⟩ := Prod.mk.inj h
  refine ⟨rfl, (files.sameFolders_discard _).trans (FileTree.sameFolders_discard _ _), ?_⟩
  intro place hplace e left
  have before := FileTree.find?_of_discard left
  have folder : e = .folder := by
    rcases List.mem_cons.mp hplace with rfl | hplace
    · exact FileTree.eq_folder_of_discard left
    · obtain rfl := List.mem_singleton.mp hplace
      exact FileTree.eq_folder_of_discard before
  exact ⟨folder, folder ▸ FileTree.find?_of_discard before⟩

/-- The ways in which a run answers for a job. -/
theorem run_cases (h : run harness folder job files = (.ok f, files')) :
    begin job folder files = .reused f ∧ files' = files ∨
      ∃ start, begin job folder files = .ready start ∧
        (complete job (job.outputPath folder) (harness job (job.outputPath folder) start).elapsed
            (harness job (job.outputPath folder) start).files = (.ok f, files') ∨
          fail job (job.outputPath folder) (harness job (job.outputPath folder) start).elapsed
            (harness job (job.outputPath folder) start).files = (f, files')) := by
  unfold run at h
  split at h
  · rename_i g reused
    obtain ⟨result, rfl⟩ := Prod.mk.inj h
    obtain rfl := Except.ok.inj result
    exact .inl ⟨reused, rfl⟩
  · cases (Prod.mk.inj h).1
  · rename_i start ready
    refine .inr ⟨start, ready, ?_⟩
    dsimp only at h
    split at h
    · exact .inl h
    · right
      cases failed : fail job (job.outputPath folder)
        (harness job (job.outputPath folder) start).elapsed
        (harness job (job.outputPath folder) start).files with
      | mk g left =>
        rw [failed] at h
        cases h
        rfl

/-! ### Runs after runs -/

/-- A harness that makes, overwrites and deletes files, and changes nothing else. -/
def Harness.Tame (h : Harness) : Prop :=
  ∀ job path files, FileTree.ChangesFiles files (h job path files).files

/-- Where a path leads to there is a file or nothing. -/
def Clear (files : FileTree) (path : String) : Prop :=
  ∀ e, files.find? [] path = some e → e.isRegular = true

/-- Runs a job again with one harness after the other; the results in order, and the files. -/
def rerun (folder : String) (job : Job) : List Harness → FileTree →
    List (Except RunFault FinishedJob) × FileTree
  | [], files => ([], files)
  | h :: hs, files =>
    let (result, files) := run h folder job files
    let (results, files) := rerun folder job hs files
    (result :: results, files)

/-- A run that begins with a result ends with it. -/
theorem run_of_reused (reused : begin job folder files = .reused f) (h : Harness) :
    run h folder job files = (.ok f, files) := by
  unfold run
  split
  · rename_i g found
    cases reused.symm.trans found
    rfl
  · rename_i fault refused
    cases reused.symm.trans refused
  · rename_i start ready
    cases reused.symm.trans ready

/-- **A completed run is found again** by all later runs, whatever their harnesses. -/
theorem rerun_of_reused (reused : begin job folder files = .reused f) (hs : List Harness) :
    rerun folder job hs files = (hs.map fun _ => .ok f, files) := by
  induction hs with
  | nil => rfl
  | cons h hs ih => simp only [rerun, run_of_reused reused h, ih, List.map_cons]

/-- After a success the place of the output is as clear as the harness has found it. -/
theorem hasFile_of_complete (tame : harness.Tame) {e : Entry}
    (clear : Clear start path)
    (kind : e.isRegular = true ∨ (harness job path start).files.find? [] path = some e)
    (found : files'.find? [] path = some e) : files'.hasFile path = true := by
  refine FileTree.hasFile_iff.mpr ⟨e, found, ?_⟩
  rcases kind with file | before
  · exact file
  · -- what is no file has not been touched by the harness, so it was there at the start
    by_contra other
    have changes := tame job path start
    obtain ⟨q, hq, he⟩ := FileTree.find?_eq_some_iff.mp before
    have there : start.find? [] path = some e := FileTree.find?_eq_some_iff.mpr
      ⟨q, (FileTree.locate_iff changes.sameFolders).mp hq,
        changes.get?_eq (Bool.eq_false_iff.mpr other) he⟩
    exact other (clear e there)

/-- **Runs are idempotent, and failures leave nothing behind.** Take any files, a job, a folder and
a harness that changes files alone. If a run answers with a result, this is the path of the output,
something is there, and the time that is recorded beside it is the time of the run. If there was
nothing but a file in the place of the output when the harness started, there is a file now, and all
later runs of the job, with any harnesses, give the same answer and change nothing. If a run answers
without a result, there is nothing in the places of output and time but folders that were there when
the harness started, and the next run starts its harness on the files as they are. -/
theorem run_settled (tame : harness.Tame) (h : run harness folder job files = (.ok f, files')) :
    (∀ result, f.result = some result →
      result = job.outputPath folder ∧ files'.has result = true ∧
      (f.elapsed < 18446744073709551616 → recordedTime? files' result = some f.elapsed ∧
        ((∀ start, begin job folder files = .ready start → Clear start result) →
          files'.hasFile result = true ∧ begin job folder files' = .reused f ∧
          ∀ hs, rerun folder job hs files' = (hs.map fun _ => .ok f, files')))) ∧
    (f.result = none →
      (∀ place ∈ [job.outputPath folder, timePath (job.outputPath folder)],
        ∀ e, files'.find? [] place = some e → e = .folder ∧
          ∃ start, begin job folder files = .ready start ∧ start.find? [] place = some .folder) ∧
      begin job folder files' = .ready files') := by
  rcases run_cases h with ⟨reused, rfl⟩ | ⟨start, ready, completed | failed⟩
  · obtain ⟨there, e, recorded, rfl⟩ := reusable?_eq_some_iff.mp (begin_eq_reused_iff.mp reused)
    refine ⟨fun result hr => ?_, nofun⟩
    obtain rfl := Option.some.inj hr
    refine ⟨rfl, ?_, fun _ => ⟨recorded, fun _ => ⟨there, reused, rerun_of_reused reused⟩⟩⟩
    obtain ⟨entry, found, -⟩ := FileTree.hasFile_iff.mp there
    exact FileTree.has_iff.mpr ⟨entry, found⟩
  · obtain ⟨rfl, written, e, found, kind⟩ := complete_ok completed
    refine ⟨fun result hr => ?_, nofun⟩
    obtain rfl := Option.some.inj hr
    refine ⟨rfl, FileTree.has_iff.mpr ⟨e, found⟩, fun short => ?_⟩
    have recorded := recordedTime?_of_read short written
    refine ⟨recorded, fun clear => ?_⟩
    have there := hasFile_of_complete tame (clear start ready) kind found
    have reused := begin_eq_reused_iff.mpr (reusable?_eq_some_iff.mpr ⟨there, _, recorded, rfl⟩)
    exact ⟨there, reused, rerun_of_reused reused⟩
  · obtain ⟨rfl, same, folders⟩ := fail_ok failed
    have changes := (tame job (job.outputPath folder) start).sameFolders
    refine ⟨nofun, fun _ => ⟨fun place hplace e left => ?_, ?_⟩⟩
    · obtain ⟨rfl, before⟩ := folders place hplace e left
      obtain ⟨q, hq, he⟩ := FileTree.find?_eq_some_iff.mp before
      exact ⟨rfl, start, ready, FileTree.find?_eq_some_iff.mpr
        ⟨q, (FileTree.locate_iff changes).mp hq, changes.2.folders q he⟩⟩
    · refine begin_eq_ready_iff.mpr ⟨?_, FileTree.makeFolders_again
        (begin_eq_ready_iff.mp ready).2 (changes.trans same).1⟩
      have absent : files'.hasFile (job.outputPath folder) ≠ true := by
        intro there
        obtain ⟨e, left, file⟩ := FileTree.hasFile_iff.mp there
        obtain ⟨rfl, -⟩ := folders _ List.mem_cons_self e left
        cases file
      rw [reusable?, if_neg absent]

/-- A harness that writes some bytes to its output, and succeeds or not. -/
def writes (bytes : ByteArray) (succeeded : Bool) : Harness := fun _ path files =>
  ⟨succeeded, 7, (files.write path bytes).toOption.getD files⟩

theorem tame_writes (bytes : ByteArray) (succeeded : Bool) : (writes bytes succeeded).Tame := by
  intro job path files
  unfold writes
  cases h : files.write path bytes with
  | error fault => exact .refl files
  | ok written =>
    obtain ⟨q, -, noFolder, ⟨-, rfl⟩ | ⟨noDevice, rfl⟩⟩ := FileTree.write_ok h
    · exact .refl written
    · refine ⟨rfl, fun p => ?_⟩
      by_cases here : p = q
      · subst here
        refine .inr ⟨fun e he => ?_, fun e he => ?_⟩
        · cases e <;> simp_all [Entry.isRegular]
        · obtain rfl := Option.some.inj
            ((files.get?_put_self _ (FileTree.isRoot_eq_false noFolder)).symm.trans he)
          rfl
      · exact .inl (files.get?_put_of_ne _ here)

/-- A job with the dials. -/
def dialsJob : Job := ⟨Configuration.dials, ⟨"p"⟩⟩

/-- The path of its output. -/
def dialsOutput : String := dialsJob.outputPath "out"

/-- A harness that does nothing, and succeeds or not. -/
def idle (succeeded : Bool) : Harness := fun _ _ files => ⟨succeeded, 0, files⟩

/-- Files with a folder in the place of an output. -/
def dialsBlocked : FileTree := FileTree.empty.layFolder dialsOutput

/-- What the runs of the job answer, and what lies in the place of its output. -/
theorem runs_dials :
    ((run (writes "r".toUTF8 true) "out" dialsJob .empty).1 = .ok ⟨dialsJob, 7, some dialsOutput⟩ ∧
      (FileTree.empty.makeFolders (folderOf dialsJob "out")).toOption.bind
        (fun start => start.find? [] dialsOutput) = none) ∧
    ((run (idle true) "out" dialsJob dialsBlocked).1 = .ok ⟨dialsJob, 0, some dialsOutput⟩ ∧
      reusable? dialsJob dialsOutput (run (idle true) "out" dialsJob dialsBlocked).2 = none ∧
      (run (idle true) "out" dialsJob dialsBlocked).2.makeFolders (folderOf dialsJob "out") =
        .ok (run (idle true) "out" dialsJob dialsBlocked).2) ∧
    (run (idle false) "out" dialsJob dialsBlocked).1 = .ok ⟨dialsJob, 0, none⟩ ∧
      (run (idle false) "out" dialsJob dialsBlocked).2.has dialsOutput = true := by
  decide +kernel

theorem run_settled_dials :
    ∃ files', run (writes "r".toUTF8 true) "out" dialsJob .empty =
        (.ok ⟨dialsJob, 7, some dialsOutput⟩, files') ∧
      files'.hasFile dialsOutput = true ∧ recordedTime? files' dialsOutput = some 7 ∧
      ∀ hs, rerun "out" dialsJob hs files' =
        (hs.map fun _ => .ok ⟨dialsJob, 7, some dialsOutput⟩, files') := by
  obtain ⟨ran, vacant⟩ := runs_dials.1
  cases h : run (writes "r".toUTF8 true) "out" dialsJob .empty with
  | mk answer files' =>
    rw [h] at ran
    obtain rfl : answer = .ok ⟨dialsJob, 7, some dialsOutput⟩ := ran
    obtain ⟨-, -, recorded⟩ := (run_settled (tame_writes _ _) h).1 dialsOutput rfl
    obtain ⟨time, settled⟩ := recorded (by decide)
    have clear (start : FileTree) (ready : begin dialsJob "out" .empty = .ready start) :
        Clear start dialsOutput := by
      rw [(begin_eq_ready_iff.mp ready).2] at vacant
      intro e he
      cases vacant.symm.trans he
    obtain ⟨there, -, again⟩ := settled clear
    exact ⟨files', rfl, there, time, again⟩

/-- **A folder in the place of an output.** A harness that changes nothing succeeds, and the run
answers with the path of the folder; yet the next run starts its harness. Where the harness fails
the folder is still there. -/
theorem run_unsettled :
    (idle true).Tame ∧ (idle false).Tame ∧
      (∃ files', run (idle true) "out" dialsJob dialsBlocked =
          (.ok ⟨dialsJob, 0, some dialsOutput⟩, files') ∧
        begin dialsJob "out" files' = .ready files') ∧
      ∃ files', run (idle false) "out" dialsJob dialsBlocked = (.ok ⟨dialsJob, 0, none⟩, files') ∧
        files'.has dialsOutput = true := by
  have tame (succeeded : Bool) : (idle succeeded).Tame := fun _ _ files => .refl files
  obtain ⟨-, ⟨succeeds, missing, made⟩, fails, left⟩ := runs_dials
  refine ⟨tame true, tame false, ?_, ?_⟩
  · cases h : run (idle true) "out" dialsJob dialsBlocked with
    | mk answer files' =>
      rw [h] at succeeds missing made
      obtain rfl : answer = .ok ⟨dialsJob, 0, some dialsOutput⟩ := succeeds
      exact ⟨files', rfl, begin_eq_ready_iff.mpr ⟨missing, made⟩⟩
  · cases h : run (idle false) "out" dialsJob dialsBlocked with
    | mk answer files' =>
      rw [h] at fails left
      obtain rfl : answer = .ok ⟨dialsJob, 0, none⟩ := fails
      exact ⟨files', rfl, left⟩

end Execution
end OrderTrials
