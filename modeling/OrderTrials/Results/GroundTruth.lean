import OrderTrials.Job
import OrderTrials.Results.Reader
/-
# Ground truth

For some targets the true results are known. Whatever else the analyzer reports on such a target
is a false alarm. On a target without known results nothing is held against a report, and both
halves of it are the whole.

Key definitions: `GroundTruth`, `GroundTruth.load`, `GroundTruth.truePart`, `GroundTruth.falsePart`.
-/

namespace OrderTrials

/-- The true results of targets, the latest entry first. -/
structure GroundTruth (R : Type) where
  known : List (Target × List R)
deriving Inhabited

namespace GroundTruth

variable {R : Type} [DecidableEq R]

/-- No known results. -/
def empty : GroundTruth R := ⟨[]⟩

/-- Enters the true results of a target. -/
def insert (g : GroundTruth R) (target : Target) (results : List R) : GroundTruth R :=
  ⟨(target, results) :: g.known⟩

/-- The true results of a target, if they are known. -/
def known? (g : GroundTruth R) (target : Target) : Option (List R) :=
  (g.known.find? (·.1 == target)).map (·.2)

/-- Whether the true results of a target are known. -/
def covers (g : GroundTruth R) (target : Target) : Bool := (g.known? target).isSome

/-- The results that are true; all of them where the truth is not known. -/
def truePart (g : GroundTruth R) (target : Target) (results : List R) : List R :=
  match g.known? target with
  | some known => results.filter known.contains
  | none => results

/-- The results that are false alarms; all of them where the truth is not known. -/
def falsePart (g : GroundTruth R) (target : Target) (results : List R) : List R :=
  match g.known? target with
  | some known => results.filter fun r => !known.contains r
  | none => results

/-- The path of the known results of a target. -/
def pathOf (folder : String) (target : Target) : String :=
  Path.join folder (target.slug ++ ".truth")

/-- Reads the known results of each target that has a file of them. -/
def load (reader : Reader R) (files : FileTree) (folder : String) (targets : List Target) :
    Except ReadFault (GroundTruth R) :=
  targets.foldlM (fun g target => do
    let path := pathOf folder target
    if files.hasFile path then
      return g.insert target (← reader.read files path)
    else return g) empty

end GroundTruth
end OrderTrials
