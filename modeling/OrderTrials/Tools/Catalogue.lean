import OrderTrials.Machine.Launching
import OrderTrials.Shell.Start
import OrderTrials.Tools.Edit.Program
import OrderTrials.Tools.Print
import OrderTrials.Tools.Show
/-
# The tools of a machine

The programs that a machine knows, where they lie among the files, and the launcher that starts
them.

Key definitions: `Tools.catalogue`, `Tools.install`, `Tools.launch`.
Key theorems: `Tools.catalogue_true`.
-/

namespace OrderTrials
namespace Tools

open Machine (Act Program Environment)

/-- A tool that does not look at its variables. -/
def plain (tool : List Octets → Act Nat) : List Octets → Environment → Program :=
  fun words _ => (tool words).toProgram

/-- The tools by their names. -/
def tools : List (String × (List Octets → Environment → Program)) :=
  [("sh", Shell.program), ("echo", plain echo), ("cat", plain Show.program),
    ("printf", plain Print.program), ("sleep", plain sleep), ("true", plain (constant 0)),
    ("false", plain (constant 1)), ("sed", Edit.program)]

/-- The programs that a machine knows. -/
def catalogue : Machine.Catalogue := fun name => (tools.find? (·.1 == name)).map (·.2)

/-- The tool that does nothing is known. -/
theorem catalogue_true : (catalogue "true").isSome = true := rfl

/-- The folders that are there besides those of programs. -/
def otherFolders : List String := ["/dev", "/tmp"]

/-- The folders in which the tools lie. -/
def toolFolders : List String := ["/bin", "/usr/bin"]

/-- What a path leads to, put among the files if that is possible. -/
def lay (e : Entry) (t : FileTree) (path : String) : FileTree :=
  match t.locate [] path with
  | .ok place => t.put place e
  | .error _ => t

/-- Files with the tools among them. -/
def install (t : FileTree) : FileTree :=
  let t := (otherFolders ++ toolFolders).foldl FileTree.layFolder t
  let t := lay .void t "/dev/null"
  toolFolders.foldl (fun t folder =>
    tools.foldl (fun t (name, _) => lay (.program name) t (folder ++ "/" ++ name)) t) t

/-- Starts the tools. -/
def launch : Launcher := Machine.launch catalogue

end Tools
end OrderTrials
