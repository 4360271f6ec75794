import OrderTrials.Execution.Launch
import OrderTrials.Execution.Run
/-
# Running jobs by a command

A command is a template for the words of a program. In each word the marks for the target and the
output are replaced, the target first; a word that is the mark for the configuration is replaced by
the arguments that set it. A program that is told the path of its output writes the output itself;
otherwise what it prints is the output.

Key definitions: `Template`, `Template.words`, `Template.writesOutput`, `Template.run`,
`Text.replaced`.
Key theorems: `Text.replacedChars_of_none`.
-/

namespace OrderTrials
namespace Text

/-- A text with each place of a mark, from the left on, replaced by another text. The number says
how many characters of a mark that was just replaced are still to be left out. -/
def replacedChars (mark new : List Char) : Nat → List Char → List Char
  | _, [] => []
  | skip + 1, _ :: r => replacedChars mark new skip r
  | 0, c :: r =>
    if mark.isPrefixOf (c :: r) then new ++ replacedChars mark new (mark.length - 1) r
    else c :: replacedChars mark new 0 r

/-- Whether a mark is somewhere in a text. -/
def containsMark (mark : List Char) : List Char → Bool
  | [] => mark.isEmpty
  | c :: r => mark.isPrefixOf (c :: r) || containsMark mark r

/-- A text without a mark stays as it is. -/
theorem replacedChars_of_none (mark new : List Char) {s : List Char}
    (h : containsMark mark s = false) : replacedChars mark new 0 s = s := by
  induction s with
  | nil => rfl
  | cons c r ih =>
    simp only [containsMark, Bool.or_eq_false_iff] at h
    simp [replacedChars, h.1, ih h.2]

/-- A string with each place of a mark replaced. -/
def replaced (mark new s : String) : String :=
  String.ofList (replacedChars mark.toList new.toList 0 s.toList)

end Text

/-- The words of a command with marks in them, the folder that it is started in, and the
milliseconds that it may take. -/
structure Template where
  command : List String
  folder : Option String
  limit : Nat
deriving DecidableEq, Inhabited

namespace Template

/-- The mark for the name of the target. -/
def targetMark : String := "\x7btarget\x7d"

/-- The mark for the path of the output. -/
def outputMark : String := "\x7boutput\x7d"

/-- The word that stands for the arguments of the configuration. -/
def configurationMark : String := "\x7bconfig\x7d"

/-- The words that a word of the template becomes. -/
def wordsOf (s : Space) (job : Job) (output word : String) : List String :=
  if word = configurationMark then job.configuration.arguments s
  else [Text.replaced outputMark output (Text.replaced targetMark job.target.name word)]

/-- The words of the program for a job. -/
def words (t : Template) (s : Space) (job : Job) (output : String) : List String :=
  t.command.flatMap (wordsOf s job output)

/-- Whether the program is told the path of its output. -/
def writesOutput (t : Template) : Bool :=
  t.command.any fun word => Text.containsMark outputMark.toList word.toList

/-- The files after a program has been stopped or has ended, with what it printed as the output
unless it wrote the output itself. -/
def collected (t : Template) (output : String) (o : Outcome) : FileTree :=
  if t.writesOutput then o.files
  else
    match o.files.write output o.output with
    | .ok files => files
    | .error _ => o.files

/-- Runs the program for a job, once the folder of its output is there. -/
def start (t : Template) (launcher : Launcher) (job : Job) (output program : String)
    (arguments : List String) (files : FileTree) : Except RunFault FinishedJob × FileTree :=
  match if t.writesOutput then .ok files else files.write output .empty with
  | .error cause => (.error (.io output cause), files)
  | .ok files =>
    match launcher ⟨program, arguments, t.folder⟩ (some (Launch.lastLook t.limit)) files with
    | .error reason => (.error (.spawn program reason), (Execution.fail job output 0 files).2)
    | .ok o =>
      let files := t.collected output o
      if o.ending.succeeded then Execution.complete job output o.elapsed files
      else
        let (f, files) := Execution.fail job output o.elapsed files
        (.ok f, files)

/-- Runs a job by the command, with its output below a folder. -/
def run (t : Template) (launcher : Launcher) (s : Space) (folder : String) (job : Job)
    (files : FileTree) : Except RunFault FinishedJob × FileTree :=
  match Execution.begin job folder files with
  | .reused f => (.ok f, files)
  | .refused fault => (.error fault, files)
  | .ready files =>
    let output := job.outputPath folder
    match t.words s job output with
    | [] => (.error .emptyCommand, files)
    | program :: arguments => t.start launcher job output program arguments files

end Template
end OrderTrials
