import OrderTrials.Configuration
import OrderTrials.Path
/-
# Jobs

A target is a program that the analyzer is run on. A job is a configuration on a target; its
output has a place of its own below a folder, which depends on nothing but the job. A finished
job also knows where its result lies, if the run produced one.

Key definitions: `Target`, `Target.slug`, `Job`, `Job.outputPath`, `FinishedJob`.
-/

namespace OrderTrials

/-- A program that the analyzer is run on. -/
structure Target where
  name : String
deriving DecidableEq, Inhabited

namespace Target

/-- Whether a character may stand in the name of a folder. -/
def isSafe (c : Char) : Bool := c.isAlphanum || c == '-' || c == '.'

/-- A name for a folder: the name of the target with underscores for unsafe characters, a dash,
and the first eight digits of the digest of the name. -/
def slug (t : Target) : String :=
  String.ofList (t.name.toList.map fun c => if isSafe c then c else '_') ++ "-" ++
    String.ofList ((Digest.hex t.name).toList.take 8)

end Target

/-- A configuration on a target. -/
structure Job where
  configuration : Configuration
  target : Target
deriving DecidableEq, Inhabited

/-- Where the output of a job lies below a folder. -/
def Job.outputPath (j : Job) (folder : String) : String :=
  Path.join (Path.join folder j.target.slug) (j.configuration.fingerprint ++ ".out")

/-- A job after its run. Without a result the run failed. -/
structure FinishedJob where
  job : Job
  elapsed : Nat
  result : Option String
deriving DecidableEq, Inhabited

namespace FinishedJob

/-- The configuration of the job. -/
def configuration (f : FinishedJob) : Configuration := f.job.configuration

/-- The target of the job. -/
def target (f : FinishedJob) : Target := f.job.target

/-- The option that the job investigates. -/
def investigated (f : FinishedJob) : Option String := f.job.configuration.investigated

end FinishedJob
end OrderTrials
