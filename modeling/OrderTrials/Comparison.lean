import OrderTrials.Violation
/-
# Comparing finished jobs

Finished jobs on one target are compared in pairs. A pair is of interest if its configurations
differ in exactly the option under investigation and if the levels of it are related in both
ways, one being sounder and the other more precise, where the relation that reads from the first
job to the second follows from declared orders alone.

Key definitions: `Comparison.relatedOrders`, `Comparison.compare`, `Comparison.pairs`,
`Comparison.check`.
-/

namespace OrderTrials
namespace Comparison

/-- The two orders between levels, one of soundness and one of precision, that say that `a` is
sounder and `b` more precise. -/
def relatedOrders (d : Dimension) (a b : Level) :
    Except SpaceError (Option (List DerivedOrder)) := do
  if !(← d.holds .moreSound a b true) then return none
  if !(← d.holds .morePrecise b a true) then return none
  let sound ← d.order? .moreSound a b
  let precise ← d.order? .morePrecise b a
  return some (sound.toList ++ precise.toList)

/-- The orders between two levels, whichever of them is the sounder one. -/
def ordersBetween (d : Dimension) (a b : Level) :
    Except SpaceError (Option (List DerivedOrder)) := do
  match ← relatedOrders d a b with
  | some orders => return some orders
  | none => relatedOrders d b a

/-- The possible violation that two jobs make, if they make one. -/
def compare (s : Space) (first second : FinishedJob) : Except SpaceError (Option Violation) := do
  let some option := first.investigated.or second.investigated | return none
  let d ← s.dimension option
  let some a := first.configuration.get? option | return none
  let some b := second.configuration.get? option | return none
  if a = b then return none
  if first.configuration.differing second.configuration != [option] then return none
  let some orders ← ordersBetween d a b | return none
  if (orders.find? fun o => o.reads a b).any (·.explicit) then
    return some (.make first second option orders)
  else return none

/-- Whether the second job is to be compared with the first: it investigates the same option or
none. -/
def isPartner (first second : FinishedJob) : Bool :=
  first.target == second.target &&
    (second.investigated.isNone || first.investigated == second.investigated)

/-- The pairs of different jobs with results that are to be compared, first job by first job. -/
def pairs (jobs : List FinishedJob) : List (FinishedJob × FinishedJob) :=
  let finished := (jobs.filter (·.result.isSome)).zipIdx
  finished.flatMap fun (first, i) =>
    finished.filterMap fun (second, k) =>
      if i != k && isPartner first second then some (first, second) else none

/-- The possible violations among finished jobs. -/
def check (s : Space) (jobs : List FinishedJob) : Except SpaceError (List Violation) := do
  let compared ← (pairs jobs).mapM fun p => compare s p.1 p.2
  return compared.filterMap id

end Comparison
end OrderTrials
