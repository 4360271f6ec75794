import OrderTrials.Campaign
import OrderTrials.CommandSeeds
import OrderTrials.Comparison
import OrderTrials.Execution.Run
import OrderTrials.RecordStore
/-
# The loop of trials

A round generates a campaign, runs its jobs, compares them, records the pairs, hands confirmed
violations on to be minimized, and feeds the outcome back to the generator. The loop repeats
rounds until every order has retired or a limit of rounds is reached.

The loop knows the world only as a state `σ` that yields random words, and through the functions
of its `Rig`: how a job is run, how results are judged, how pairs are recorded and how a violation
is minimized.

Key definitions: `Rig`, `Rig.recording`, `TrialLoop.Report`, `TrialLoop.round`,
`TrialLoop.Stats`, `TrialLoop.run`.
-/

namespace OrderTrials

/-- Why the loop ends early. -/
inductive LoopFault where
  | campaign (e : CampaignError)
  | run (fault : RunFault)
  | space (fault : SpaceError)
  | store (fault : StoreFault)
  | minimizing (reason : String)
deriving DecidableEq, Inhabited

/-- The end of the loop in words. -/
def LoopFault.message : LoopFault → String
  | campaign e => e.message
  | run fault => fault.message
  | space fault => fault.message
  | store fault => fault.message
  | minimizing reason => reason

/-- What the loop needs of the world. `judge` sees the world after the jobs have been run. Jobs are
compared in `space`, or else in the space of the generator. -/
structure Rig (σ : Type) where
  execute : Job → σ → Except RunFault FinishedJob × σ
  judge : σ → Judge String
  record : Judge String → List Violation → σ → Except StoreFault Nat × σ
  minimize : Judge String → Violation → σ → Except String Unit × σ
  space : Option Space := none

/-- Records pairs in a store, if there is one, and counts the new records. -/
def recordIn {σ : Type} [Filing σ] (store : Option RecordStore) (j : Judge String)
    (vs : List Violation) (s : σ) : Except StoreFault Nat × σ :=
  match store with
  | none => (.ok 0, s)
  | some store =>
    let (r, files) := store.persistAll j vs 0 (Filing.files s)
    (r, Filing.refile s files)

/-- The rig with a store of records, or with none. -/
def Rig.recording {σ : Type} [Filing σ] (rig : Rig σ) (store : Option RecordStore) : Rig σ :=
  { rig with record := recordIn store }

namespace TrialLoop

variable {σ τ : Type} [Randomness σ] [SeedSource τ σ]

/-- What a round did. -/
structure Report where
  round : Nat
  jobs : Nat
  failed : Nat
  comparisons : Nat
  violations : Nat
  transitive : Nat
  retired : Nat
  records : Nat
deriving DecidableEq, Inhabited

/-- Runs jobs one after the other, up to the first fault. -/
def executeAll (rig : Rig σ) : List Job → σ → Except RunFault (List FinishedJob) × σ
  | [], s => (.ok [], s)
  | j :: js, s =>
    match rig.execute j s with
    | (.error fault, s) => (.error fault, s)
    | (.ok f, s) =>
      match executeAll rig js s with
      | (.error fault, s) => (.error fault, s)
      | (.ok fs, s) => (.ok (f :: fs), s)

/-- Hands violations on one after the other, up to the first failure. -/
def minimizeAll (rig : Rig σ) (j : Judge String) : List Violation → σ → Except String Unit × σ
  | [], s => (.ok (), s)
  | v :: vs, s =>
    match rig.minimize j v s with
    | (.error reason, s) => (.error reason, s)
    | (.ok (), s) => minimizeAll rig j vs s

/-- The part of a round after its jobs have been run and compared. -/
def conclude (rig : Rig σ) (g : Generator τ) (c : Campaign) (finished : List FinishedJob)
    (vs : List Violation) (s : σ) : Except LoopFault (Option Report) × Generator τ × σ :=
  let j := rig.judge s
  match rig.record j vs s with
  | (.error fault, s) => (.error (.store fault), g, s)
  | (.ok records, s) =>
    match minimizeAll rig j (j.minimizationQueue vs) s with
    | (.error reason, s) => (.error (.minimizing reason), g, s)
    | (.ok (), s) =>
      let (g, retired) := g.feedback j.violated vs
      let confirmed := vs.filter j.violated
      (.ok (some {
        round := c.round
        jobs := c.jobs.length
        failed := (finished.filter (·.result.isNone)).length
        comparisons := vs.length
        violations := confirmed.length
        transitive := (confirmed.filter (·.isTransitive)).length
        retired, records }), g, s)

/-- One round; none once every order has retired. -/
def round (rig : Rig σ) (patience : Nat) (g : Generator τ) (s : σ) :
    Except LoopFault (Option Report) × Generator τ × σ :=
  match g.generate patience s with
  | (.error .exhausted, g, s) => (.ok none, g, s)
  | (.error e, g, s) => (.error (.campaign e), g, s)
  | (.ok c, g, s) =>
    match executeAll rig c.jobs s with
    | (.error fault, s) => (.error (.run fault), g, s)
    | (.ok finished, s) =>
      match Comparison.check (rig.space.getD g.space) finished with
      | .error fault => (.error (.space fault), g, s)
      | .ok vs => conclude rig g c finished vs s

/-- Why the loop ended. -/
inductive StopReason where
  | exhausted
  | roundLimit
deriving DecidableEq, Inhabited

/-- A reason in one word. -/
def StopReason.text : StopReason → String
  | exhausted => "Exhausted"
  | roundLimit => "RoundLimit"

/-- The sums over the rounds of a loop. -/
structure Stats where
  rounds : Nat
  jobs : Nat
  failed : Nat
  comparisons : Nat
  violations : Nat
  transitive : Nat
  records : Nat
  stop : Option StopReason
deriving DecidableEq, Inhabited

/-- The sums over no rounds. -/
def Stats.zero : Stats := ⟨0, 0, 0, 0, 0, 0, 0, none⟩

/-- Adds a round to the sums. -/
def Stats.absorb (t : Stats) (r : Report) : Stats where
  rounds := t.rounds + 1
  jobs := t.jobs + r.jobs
  failed := t.failed + r.failed
  comparisons := t.comparisons + r.comparisons
  violations := t.violations + r.violations
  transitive := t.transitive + r.transitive
  records := t.records + r.records
  stop := t.stop

/-- Repeats rounds, `fuel` of them at most. The loop has stopped exactly if it gives a reason. -/
def run (rig : Rig σ) (patience : Nat) (limit : Option Nat) :
    Nat → Stats → Generator τ → σ → Except LoopFault Stats × Generator τ × σ
  | fuel, t, g, s =>
    if limit.any fun most => most ≤ t.rounds then
      (.ok { t with stop := some .roundLimit }, g, s)
    else
      match fuel with
      | 0 => (.ok t, g, s)
      | fuel + 1 =>
        match round rig patience g s with
        | (.error fault, g, s) => (.error fault, g, s)
        | (.ok none, g, s) => (.ok { t with stop := some .exhausted }, g, s)
        | (.ok (some r), g, s) => run rig patience limit fuel (t.absorb r) g s

end TrialLoop
end OrderTrials
