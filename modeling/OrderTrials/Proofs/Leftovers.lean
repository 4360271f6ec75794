import OrderTrials.Proofs.Outputs
import OrderTrials.Proofs.Rerunning
/-
# What interrupted runs leave

An output without a time beside it is left over from a run that was interrupted. Such a run counts
for nothing: the harness is started as if the output were not there. But nothing takes the output
away before that, and completing a run only makes sure that there is one. So with a harness that
does not look at its output a run goes the same way as without the leftover, and what becomes of the
leftover is up to what the harness does there: it is gone if the harness overwrites or deletes it,
and is part of the result if the harness puts its own bytes behind it or nothing at all
(`Execution.run_leftover`).

Key definitions: `Execution.Touch`, `Execution.Harness.Touches`, `Execution.Leftover`.
Key theorems: `Execution.Leftover.begin_eq`, `Execution.run_leftover`,
`Execution.run_leftover_stale`.
-/

namespace OrderTrials
namespace Execution

variable {job : Job} {folder : String} {bytes : ByteArray} {stale clean : FileTree}
  {harness : Harness}

/-! ### Harnesses that do not look at their outputs -/

/-- What is done to an output without looking at it. -/
inductive Touch where
  /-- Nothing. -/
  | keep
  /-- Bytes are put behind those that are there. -/
  | append (bytes : ByteArray)
  /-- It is overwritten or deleted. -/
  | put (left : Option Entry)

namespace Touch

/-- What lies in the place of an output afterwards. -/
def apply : Touch → Option Entry → Option Entry
  | keep, there => there
  | append bytes, none => some (.file bytes)
  | append bytes, some (.file there) => some (.file (there ++ bytes))
  | append _, some other => some other
  | put left, _ => left

/-- Whether nothing is left of what has been there. -/
def Overwrites : Touch → Prop
  | put _ => True
  | _ => False

theorem append_eq_self_iff (a b : ByteArray) : a ++ b = b ↔ a = .empty := by
  constructor
  · intro h
    have sizes := congrArg ByteArray.size h
    rw [ByteArray.size_append] at sizes
    exact ByteArray.size_eq_zero_iff.mp (by omega)
  · rintro rfl
    exact ByteArray.empty_append

/-- **What was there makes no difference** exactly if it is overwritten or empty. -/
theorem apply_eq_iff (touch : Touch) (bytes : ByteArray) :
    (touch.apply (some (.file bytes))).getD (.file .empty) =
        (touch.apply none).getD (.file .empty) ↔
      touch.Overwrites ∨ bytes = .empty := by
  cases touch with
  | keep => simp [apply, Overwrites]
  | append own => simp [apply, Overwrites, append_eq_self_iff]
  | put left => simp [apply, Overwrites]

end Touch

/-- A harness that does not look at its output: what it does to it, and all else that it does, is
the same whether there is nothing or a file. -/
structure Harness.Touches (harness : Harness) (touch : Job → String → FileTree → Touch) :
    Prop where
  home : ∀ job path t, (harness job path t).files.home = t.home
  output : ∀ job path t p, t.locate [] path = .ok p → Clear t path →
    (harness job path t).files.get? p = (touch job path t).apply (t.get? p)
  blind : ∀ job path t t' p, t.locate [] path = .ok p → Clear t path →
    t'.locate [] path = .ok p → Clear t' path → t'.home = t.home →
    (∀ q, q ≠ p → t'.get? q = t.get? q) →
      touch job path t' = touch job path t ∧
      (harness job path t').succeeded = (harness job path t).succeeded ∧
      ∀ q, q ≠ p → (harness job path t').files.get? q = (harness job path t).files.get? q

/-! ### Runs after an interrupted run -/

/-- Two trees that are the same but for an output of a job, which lies in one of them, without a
time that can be read, and not in the other. -/
structure Leftover (job : Job) (folder : String) (bytes : ByteArray) (stale clean : FileTree) :
    Prop where
  found : stale.locate [] (job.outputPath folder) = .ok (outputPlace stale job folder)
  there : stale.get? (outputPlace stale job folder) = some (.file bytes)
  untimed : recordedTime? stale (job.outputPath folder) = none
  absent : clean.get? (outputPlace stale job folder) = none
  home : clean.home = stale.home
  others : ∀ q, q ≠ outputPlace stale job folder → clean.get? q = stale.get? q

namespace Leftover

/-- What lies on the way to an output is not the output. -/
theorem ne_of_way (h : Leftover job folder bytes stale clean) {f : Place}
    (hf : f ∈ stale.wayOf (folderOf job folder)) : f ≠ outputPlace stale job folder := by
  intro here
  have folder := ((FileTree.locate_join_ok_iff (leads_outputName job)).mp h.found).2.1 f hf
  rw [here, h.there] at folder
  cases folder

theorem found_clean (h : Leftover job folder bytes stale clean) :
    clean.locate [] (job.outputPath folder) = .ok (outputPlace stale job folder) := by
  rw [← h.found]
  exact FileTree.locate_join_congr (leads_outputName job) h.home
    fun f hf => h.others f (h.ne_of_way hf)

theorem clear_stale (h : Leftover job folder bytes stale clean) :
    Clear stale (job.outputPath folder) := by
  intro e he
  rw [FileTree.find?, h.found] at he
  obtain rfl := Option.some.inj (h.there.symm.trans he)
  rfl

theorem clear_clean (h : Leftover job folder bytes stale clean) :
    Clear clean (job.outputPath folder) := by
  intro e he
  rw [FileTree.find?, h.found_clean] at he
  cases h.absent.symm.trans he

/-- **An interrupted run counts for nothing:** the harness is started on the files as they are. -/
theorem begin_eq (h : Leftover job folder bytes stale clean) :
    begin job folder stale = .ready stale ∧ begin job folder clean = .ready clean := by
  refine ⟨begin_eq_ready_iff.mpr ⟨?_, ?_⟩, begin_eq_ready_iff.mpr ⟨?_, ?_⟩⟩
  · rw [reusable?, h.untimed, Option.map_none, ite_self]
  · exact FileTree.makeFolders_of_locate (leads_outputName job) h.found
  · have missing : clean.hasFile (job.outputPath folder) ≠ true := by
      intro file
      obtain ⟨e, he, -⟩ := FileTree.hasFile_iff.mp file
      rw [FileTree.find?, h.found_clean] at he
      cases h.absent.symm.trans he
    rw [reusable?, if_neg missing]
  · exact FileTree.makeFolders_of_locate (leads_outputName job) h.found_clean

end Leftover

/-- **What becomes of a leftover.** Take a harness that does not look at its output, and two trees
that are the same but for an output without a time, left over from an interrupted run, in one of
them. Runs on both trees answer alike. If they succeed, there is in both what the harness makes of
what was there, or an empty file; so there is the same in both exactly if the harness overwrites or
deletes its output, or the leftover is empty. -/
theorem run_leftover {touch : Job → String → FileTree → Touch} (touches : harness.Touches touch)
    (h : Leftover job folder bytes stale clean) :
    outcome (run harness folder job stale).1 = outcome (run harness folder job clean).1 ∧
      ∀ result, outcome (run harness folder job clean).1 = some (some result) →
        (run harness folder job stale).2.find? [] result =
          some (((touch job result clean).apply (some (.file bytes))).getD (.file .empty)) ∧
        (run harness folder job clean).2.find? [] result =
          some (((touch job result clean).apply none).getD (.file .empty)) ∧
        ((run harness folder job stale).2.find? [] result =
            (run harness folder job clean).2.find? [] result ↔
          (touch job result clean).Overwrites ∨ bytes = .empty) := by
  obtain ⟨readyStale, readyClean⟩ := h.begin_eq
  obtain ⟨touched, succeeded, others⟩ := touches.blind job (job.outputPath folder) stale clean _
    h.found h.clear_stale h.found_clean h.clear_clean h.home h.others
  have made := touches.output job (job.outputPath folder) stale _ h.found h.clear_stale
  have made' := touches.output job (job.outputPath folder) clean _ h.found_clean h.clear_clean
  rw [← touched, h.there] at made
  rw [h.absent] at made'
  have home := touches.home job (job.outputPath folder) stale
  have home' := touches.home job (job.outputPath folder) clean
  rw [run_of_ready readyStale, run_of_ready readyClean, succeeded]
  generalize harness job (job.outputPath folder) stale = trace at *
  generalize harness job (job.outputPath folder) clean = trace' at *
  cases trace.succeeded with
  | false =>
    simp only [Bool.false_eq_true, if_false]
    exact ⟨rfl, nofun⟩
  | true =>
    have place : outputPlace trace.files job folder = outputPlace stale job folder :=
      outputPlace_of_home home
    have place' : outputPlace trace'.files job folder = outputPlace stale job folder :=
      outputPlace_of_home (home'.trans h.home)
    have completes : Completes job folder trace'.files ↔ Completes job folder trace.files := by
      refine completes_congr (home'.trans (h.home.trans home.symm)) (fun f hf => ?_) ?_
      · rw [FileTree.wayOf_of_home home] at hf
        exact others f (h.ne_of_way hf)
      · refine others _ ?_
        rw [timePlace_of_home home]
        exact (outputPlace_ne_timePlace stale job job folder).symm
    simp only [if_true, outcome_complete, completes]
    refine ⟨trivial, fun result hr => ?_⟩
    split at hr
    · rename_i done
      obtain rfl := Option.some.inj (Option.some.inj hr)
      rw [find?_complete _ done, find?_complete _ (completes.mpr done), place, place', made, made']
      refine ⟨rfl, rfl, ?_⟩
      rw [Option.some_inj, Touch.apply_eq_iff]
    · cases hr

/-! ### An interrupted run of the dials -/

theorem touches_idle (succeeded : Bool) : (idle succeeded).Touches fun _ _ _ => .keep where
  home _ _ _ := rfl
  output _ _ _ _ _ _ := rfl
  blind _ _ _ _ _ _ _ _ _ _ others := ⟨rfl, rfl, others⟩

/-- A harness that writes its output overwrites what is there. -/
theorem touches_writes (bytes : ByteArray) (succeeded : Bool) :
    (writes bytes succeeded).Touches fun _ path _ =>
      if Path.endsOpen path = true ∧ Path.steps path ≠ [] then .keep
      else .put (some (.file bytes)) := by
  have written (t : FileTree) (path : String) (p : Place) (found : t.locate [] path = .ok p)
      (clear : Clear t path) : (t.write path bytes).toOption.getD t =
        if Path.endsOpen path = true ∧ Path.steps path ≠ [] then t
        else t.put p (.file bytes) := by
    rw [written_eq, found]
    cases there : t.get? p with
    | none => simp only [there]
    | some e =>
      have regular := clear e (FileTree.find?_eq_some_iff.mpr ⟨p, found, there⟩)
      cases e with
      | file own => simp only [there]
      | program name => simp only [there]
      | folder => cases regular
      | void => cases regular
  refine ⟨fun job path t => ?_, fun job path t p found clear => ?_,
    fun job path t t' p found clear found' clear' home others => ⟨rfl, rfl, ?_⟩⟩
  · exact ((tame_writes bytes succeeded) job path t).home
  · have noFolder : t.get? p ≠ some .folder := by
      intro there
      cases clear _ (FileTree.find?_eq_some_iff.mpr ⟨p, found, there⟩)
    dsimp only [writes]
    rw [written t path p found clear]
    split
    · rfl
    · exact t.get?_put_self _ (FileTree.isRoot_eq_false noFolder)
  · intro q hq
    dsimp only [writes]
    rw [written t path p found clear, written t' path p found' clear']
    split
    · exact others q hq
    · rw [t'.get?_put_of_ne _ hq, t.get?_put_of_ne _ hq, others q hq]

/-- The folder of the output, and nothing in it. -/
def dialsClean : FileTree := FileTree.empty.layFolder (folderOf dialsJob "out")

/-- The same with an output and no time. -/
def dialsStale : FileTree :=
  dialsClean.put (outputPlace dialsClean dialsJob "out") (.file "stale".toUTF8)

theorem leftover_dials : Leftover dialsJob "out" "stale".toUTF8 dialsStale dialsClean := by
  have found : dialsClean.locate [] (dialsJob.outputPath "out") =
      .ok (outputPlace dialsClean dialsJob "out") := by decide +kernel
  have absent : dialsClean.get? (outputPlace dialsClean dialsJob "out") = none := by decide +kernel
  have file : dialsClean.get? (outputPlace dialsClean dialsJob "out") ≠ some .folder := by
    rw [absent]
    nofun
  have place : outputPlace dialsStale dialsJob "out" = outputPlace dialsClean dialsJob "out" :=
    outputPlace_of_home rfl
  refine ⟨?_, ?_, by decide +kernel, ?_, rfl, ?_⟩
  · rw [place]
    exact (FileTree.sameFolders_put (e := .file "stale".toUTF8) file nofun).1.locate found
  · rw [place]
    exact dialsClean.get?_put_self _ (FileTree.isRoot_eq_false file)
  · rw [place, absent]
  · rw [place]
    exact fun q hq => (dialsClean.get?_put_of_ne _ hq).symm

theorem run_leftover_dials :
    outcome (run (writes "r".toUTF8 true) "out" dialsJob dialsClean).1 =
        some (some dialsOutput) ∧
      outcome (run (writes "r".toUTF8 true) "out" dialsJob dialsStale).1 =
        some (some dialsOutput) ∧
      (run (writes "r".toUTF8 true) "out" dialsJob dialsStale).2.find? [] dialsOutput =
        (run (writes "r".toUTF8 true) "out" dialsJob dialsClean).2.find? [] dialsOutput := by
  have clean : outcome (run (writes "r".toUTF8 true) "out" dialsJob dialsClean).1 =
      some (some dialsOutput) := by decide +kernel
  obtain ⟨alike, contents⟩ := run_leftover (touches_writes "r".toUTF8 true) leftover_dials
  have closed : ¬ (Path.endsOpen dialsOutput = true ∧ Path.steps dialsOutput ≠ []) := by
    decide +kernel
  refine ⟨clean, alike.trans clean, (contents dialsOutput clean).2.2.mpr (.inl ?_)⟩
  rw [if_neg closed]
  trivial

/-- **A leftover that becomes a result.** A harness that succeeds and does not touch its output
leaves there what an interrupted run has left, and an empty file where nothing was. -/
theorem run_leftover_stale :
    (idle true).Touches (fun _ _ _ => .keep) ∧
      Leftover dialsJob "out" "stale".toUTF8 dialsStale dialsClean ∧
      outcome (run (idle true) "out" dialsJob dialsStale).1 = some (some dialsOutput) ∧
      outcome (run (idle true) "out" dialsJob dialsClean).1 = some (some dialsOutput) ∧
      (run (idle true) "out" dialsJob dialsStale).2.find? [] dialsOutput =
        some (.file "stale".toUTF8) ∧
      (run (idle true) "out" dialsJob dialsClean).2.find? [] dialsOutput =
        some (.file .empty) := by
  refine ⟨touches_idle true, leftover_dials, ?_⟩
  decide +kernel

end Execution
end OrderTrials
