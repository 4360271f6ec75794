import OrderTrials.Results.GroundTruth
/-
# Violations

Two finished jobs that differ in one option, with the orders that should hold between their
levels, are a possible violation. Whether they are one is decided from their results: a job with
the sounder level must miss nothing that the other one found, and a job with the more precise
level must report nothing that the other one did not. Where the true results are known, only true
ones count for soundness and only false alarms for precision.

Key definitions: `Violation`, `Violation.make`, `Violation.main?`, `Judge`, `Judge.onlyFirst`,
`Judge.violated`, `Judge.minimizationQueue`.
-/

namespace OrderTrials

/-- A pair of jobs and the orders that should hold between their levels of `option`. -/
structure Violation where
  first : FinishedJob
  second : FinishedJob
  option : String
  orders : List DerivedOrder
deriving DecidableEq, Inhabited

namespace Violation

/-- The level of the first job. -/
def firstLevel? (v : Violation) : Option Level := v.first.configuration.get? v.option

/-- The level of the second job. -/
def secondLevel? (v : Violation) : Option Level := v.second.configuration.get? v.option

/-- Whether an order reads from the level of the first job to that of the second. -/
def isMain (v : Violation) (o : DerivedOrder) : Bool :=
  match v.firstLevel?, v.secondLevel? with
  | some left, some right => o.reads left right
  | _, _ => false

/-- The order that reads from the level of the first job to that of the second. -/
def main? (v : Violation) : Option DerivedOrder := v.orders.find? v.isMain

/-- Exchanges the first member of a list with the one at a position. -/
def swapToFront {α : Type} (l : List α) (i : Nat) : List α :=
  match l, l[i]? with
  | a :: _, some b => (l.set i a).set 0 b
  | _, _ => l

/-- The pair with its main order moved to the front. -/
def make (first second : FinishedJob) (option : String) (orders : List DerivedOrder) : Violation :=
  let v : Violation := ⟨first, second, option, orders⟩
  match orders.findIdx? v.isMain with
  | some i => { v with orders := swapToFront orders i }
  | none => v

/-- The target of both jobs. -/
def target (v : Violation) : Target := v.first.target

/-- The relation that the main order states. -/
def relation? (v : Violation) : Option Relation := v.main?.map (·.relation)

/-- Whether the main order needs several steps. -/
def isTransitive (v : Violation) : Bool := v.main?.any (·.transitive)

/-- Whether the main order follows from declared orders alone. -/
def isExplicit (v : Violation) : Bool := v.main?.any (·.explicit)

/-- Whether the results are needed to decide about the pair. -/
def needsResults (v : Violation) : Bool := v.main?.isSome

/-- A pair as it is shown. -/
def text (v : Violation) : String :=
  "[" ++ ", ".intercalate (v.orders.map fun o => o.text) ++ "] on " ++ v.target.name

end Violation

/-- What is needed to decide about pairs: the results at a path, and what is known to be true. -/
structure Judge (R : Type) where
  results : String → List R
  truth : Option (GroundTruth R)

namespace Judge

variable {R : Type} [DecidableEq R]

/-- The judge that reads results from files; results that cannot be read count as none. -/
def ofFiles (reader : Reader R) (files : FileTree) (truth : Option (GroundTruth R)) : Judge R :=
  ⟨reader.readOrEmpty files, truth⟩

/-- The results of a job. -/
def resultsOf (j : Judge R) (f : FinishedJob) : List R :=
  match f.result with
  | some path => j.results path
  | none => []

/-- The results of a job that count for a pair. -/
def counted (j : Judge R) (v : Violation) (f : FinishedJob) : List R :=
  let results := j.resultsOf f
  match j.truth with
  | none => results
  | some truth =>
    match v.relation? with
    | some .morePrecise => truth.falsePart v.target results
    | _ => truth.truePart v.target results

/-- What the first job has and the second has not. -/
def onlyFirst (j : Judge R) (v : Violation) : List R :=
  let second := j.counted v v.second
  (j.counted v v.first).filter fun r => !second.contains r

/-- What the second job has and the first has not. -/
def onlySecond (j : Judge R) (v : Violation) : List R :=
  let first := j.counted v v.first
  (j.counted v v.second).filter fun r => !first.contains r

/-- The difference that the main order allows. -/
def expected (j : Judge R) (v : Violation) : List R :=
  match v.relation? with
  | some .morePrecise => j.onlySecond v
  | _ => j.onlyFirst v

/-- Whether the results contradict the main order. -/
def violated (j : Judge R) (v : Violation) : Bool :=
  match v.relation? with
  | some .moreSound => !(j.onlySecond v).isEmpty
  | some .morePrecise => !(j.onlyFirst v).isEmpty
  | none => false

/-- The violations that are worth minimizing, those of orders that hold in one step first. -/
def minimizationQueue (j : Judge R) (vs : List Violation) : List Violation :=
  let worth := vs.filter fun v => j.violated v && v.isExplicit
  worth.filter (!·.isTransitive) ++ worth.filter (·.isTransitive)

end Judge
end OrderTrials
