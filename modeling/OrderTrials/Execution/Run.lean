import OrderTrials.FileTree
import OrderTrials.Job
import OrderTrials.Text.Blank
import OrderTrials.Text.Quoted
/-
# Running jobs

Running a job leaves its output at a path that depends on the job alone, and beside it a file with
the time that the run took. The time is written last, so an output without a readable time is left
over from an interrupted run and counts for nothing. A job whose output and time are there is not
run again. A run that fails leaves neither file.

What is run is a harness: from a job, the path for its output and the files, it makes other files
and says whether it succeeded and how long it took.

Key definitions: `Execution.reusable?`, `Execution.begin`, `Execution.complete`,
`Execution.fail`, `Execution.Harness`, `Execution.run`.
-/

namespace OrderTrials

/-- Why a job cannot be run at all. A run that fails is no such fault. -/
inductive RunFault where
  /-- The command has no words. -/
  | emptyCommand
  /-- The program cannot be started. -/
  | spawn (program reason : String)
  /-- A file or folder cannot be made. -/
  | io (path : String) (cause : FileFault)
deriving DecidableEq, Inhabited

/-- A fault in words. -/
def RunFault.message : RunFault → String
  | emptyCommand => "Runner command is empty"
  | spawn program reason => "Failed to spawn command '" ++ program ++ "': " ++ reason
  | io path cause => "I/O error on " ++ Text.quoted path ++ ": " ++ cause.message

namespace Execution

/-- The path of the file with the time of a run. -/
def timePath (output : String) : String := Path.withExtension output "time"

/-- The time of the run that left an output, if it was completed. -/
def recordedTime? (files : FileTree) (output : String) : Option Nat :=
  match files.read (timePath output) with
  | .error _ => none
  | .ok bytes => (String.fromUTF8? bytes).bind fun text => Text.readUnsigned (Text.trim text)

/-- The result of an earlier run, if there is one. -/
def reusable? (job : Job) (output : String) (files : FileTree) : Option FinishedJob :=
  if files.hasFile output then
    (recordedTime? files output).map fun elapsed => ⟨job, elapsed, some output⟩
  else none

/-- How the run of a job begins. -/
inductive Beginning where
  /-- With the result of an earlier run. -/
  | reused (f : FinishedJob)
  /-- With a fault. -/
  | refused (fault : RunFault)
  /-- With a folder for the output. -/
  | ready (files : FileTree)

/-- The folder in which an output lies, as a path. -/
def folderOf (job : Job) (folder : String) : String := Path.join folder job.target.slug

/-- Looks for the result of an earlier run, or makes the folder for a new one. -/
def begin (job : Job) (folder : String) (files : FileTree) : Beginning :=
  let output := job.outputPath folder
  match reusable? job output files with
  | some f => .reused f
  | none =>
    match files.makeFolders (folderOf job folder) with
    | .error cause => .refused (.io (folderOf job folder) cause)
    | .ok files => .ready files

/-- Makes sure that there is an output and records the time. -/
def complete (job : Job) (output : String) (elapsed : Nat) (files : FileTree) :
    Except RunFault FinishedJob × FileTree :=
  match if files.has output then .ok files else files.write output .empty with
  | .error cause => (.error (.io output cause), files)
  | .ok files =>
    match files.replace (timePath output) (Text.showNatural elapsed).toUTF8 with
    | .error cause => (.error (.io (timePath output) cause), files)
    | .ok files => (.ok ⟨job, elapsed, some output⟩, files)

/-- Removes what a failed run has left. -/
def fail (job : Job) (output : String) (elapsed : Nat) (files : FileTree) :
    FinishedJob × FileTree :=
  (⟨job, elapsed, none⟩,
    (files.discard (timePath output)).discard output)

/-- What a harness leaves: whether it succeeded, how long it took, and the files after it. -/
structure Trace where
  succeeded : Bool
  elapsed : Nat
  files : FileTree

/-- Something that runs a job and writes its output to a path. -/
abbrev Harness := Job → String → FileTree → Trace

/-- Runs a job with a harness, with its output below a folder. -/
def run (harness : Harness) (folder : String) (job : Job) (files : FileTree) :
    Except RunFault FinishedJob × FileTree :=
  match begin job folder files with
  | .reused f => (.ok f, files)
  | .refused fault => (.error fault, files)
  | .ready files =>
    let output := job.outputPath folder
    let trace := harness job output files
    if trace.succeeded then complete job output trace.elapsed trace.files
    else
      let (f, files) := fail job output trace.elapsed trace.files
      (.ok f, files)

end Execution
end OrderTrials
