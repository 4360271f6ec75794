import OrderTrials.Proofs.Retiring
import OrderTrials.TrialLoop
/-
# What the loop counts

A run of the loop is a sequence of rounds, each of which made a report (`TrialLoop.Rounds`), and then
either the limit or an empty pool of orders. The sums of the run are those over the reports
(`TrialLoop.foldl_absorb`). The counts of one report come from the same list of compared pairs and
from the same list of jobs, which bounds them by each other (`TrialLoop.round_balanced`), and the
count of retired orders is what the pool has lost (`TrialLoop.round_settled`). Generating says that
every order has retired only if the pool is empty, and changes nothing then
(`Generator.generate_exhausted`).

Fuel plays no part in a run that has stopped (`TrialLoop.run_of_le`), and with a limit there is
always enough of it (`TrialLoop.run_stops`).

Key definitions: `TrialLoop.Rounds`, `TrialLoop.total`, `TrialLoop.Report.Balanced`,
`TrialLoop.Ending`.
Key theorems: `TrialLoop.round_ok`, `TrialLoop.round_balanced`, `TrialLoop.round_settled`,
`TrialLoop.run_rounds`, `TrialLoop.run_accounts`.
-/

namespace OrderTrials

/-! ### Records -/

namespace RecordStore

variable {store : RecordStore} {j : Judge String} {files files' : FileTree} {n : Nat}

theorem counting_ok {answer : Except StoreFault (Bool × FileTree)} {count : Nat}
    {others : Nat → FileTree → Except StoreFault Nat × FileTree}
    (h : counting answer count files others = (.ok n, files')) :
    ∃ fresh files₁, answer = .ok (fresh, files₁) ∧
      others (if fresh then count + 1 else count) files₁ = (.ok n, files') := by
  cases answer with
  | error fault => cases h
  | ok a => exact ⟨a.1, a.2, rfl, h⟩

/-- Each pair counts for one new record at most. -/
theorem persistAll_le {vs : List Violation} {count : Nat}
    (h : store.persistAll j vs count files = (.ok n, files')) : n ≤ count + vs.length := by
  induction vs generalizing count files with
  | nil =>
    cases h
    exact Nat.le_refl _
  | cons v vs ih =>
    obtain ⟨fresh, files₁, -, rest⟩ := counting_ok h
    have bound := ih rest
    have step : (if fresh then count + 1 else count) ≤ count + 1 := by split <;> omega
    rw [List.length_cons]
    omega

end RecordStore

theorem recordIn_le {σ : Type} [Filing σ] {store : Option RecordStore} {j : Judge String}
    {vs : List Violation} {s s' : σ} {n : Nat} (h : recordIn store j vs s = (.ok n, s')) :
    n ≤ vs.length := by
  cases store with
  | none =>
    cases h
    exact Nat.zero_le _
  | some store =>
    have stored : store.persistAll j vs 0 (Filing.files s) =
        (.ok n, (store.persistAll j vs 0 (Filing.files s)).2) :=
      Prod.ext (Prod.ext_iff.mp h).1 rfl
    have bound := store.persistAll_le stored
    omega

/-! ### Generating -/

namespace Generator

variable {σ τ : Type} [Randomness σ] [SeedSource τ σ] {g g' : Generator τ} {s s' : σ}
  {patience : Nat}

/-- **Generating ends only with the orders.** That every order has retired is said if and only if
the pool is empty, and nothing changes then. -/
theorem generate_exhausted (h : g.generate patience s = (.error .exhausted, g', s')) :
    g.isExhausted = true ∧ g' = g ∧ s' = s := by
  have outcome := g.generate_outcome patience s
  rw [h] at outcome
  cases outcome with
  | exhausted empty => exact ⟨empty, rfl, rfl⟩
  | failed _ _ _ _ failure =>
    cases failure with
    | seedless seedless => exact seedless.elim

/-- A campaign is numbered, and the orders stay as they are. -/
theorem generate_numbers {c : Campaign} (h : g.generate patience s = (.ok c, g', s')) :
    c.round = g.round + 1 ∧ g'.round = g.round + 1 ∧ g'.orders = g.orders := by
  have outcome := g.generate_outcome patience s
  rw [h] at outcome
  cases outcome with
  | campaign _ _ _ _ _ numbered => exact ⟨numbered, rfl, rfl⟩

end Generator

namespace TrialLoop

variable {σ τ : Type} [Randomness σ] [SeedSource τ σ] {rig : Rig σ} {patience : Nat}
  {limit : Option Nat} {g g' : Generator τ} {s s' : σ} {r : Report} {t t' : Stats}

/-! ### One round -/

omit [Randomness σ] in
theorem length_executeAll {js : List Job} {fs : List FinishedJob}
    (h : executeAll rig js s = (.ok fs, s')) : fs.length = js.length := by
  induction js generalizing s fs with
  | nil =>
    cases h
    rfl
  | cons j js ih =>
    unfold executeAll at h
    split at h
    · cases h
    · split at h
      · cases h
      · rename_i rest
        cases h
        rw [List.length_cons, List.length_cons, ih rest]

/-- **A round that made a report** generated a campaign, ran and compared its jobs, recorded the
pairs, and fed them back; it reports what this led to. -/
theorem round_ok (h : round rig patience g s = (.ok (some r), g', s')) :
    ∃ c g₁ s₁ finished s₂ vs records s₃,
      g.generate patience s = (.ok c, g₁, s₁) ∧
      executeAll rig c.jobs s₁ = (.ok finished, s₂) ∧
      Comparison.check (rig.space.getD g₁.space) finished = .ok vs ∧
      rig.record (rig.judge s₂) vs s₂ = (.ok records, s₃) ∧
      g' = (g₁.feedback (rig.judge s₂).violated vs).1 ∧
      r = {
        round := c.round
        jobs := c.jobs.length
        failed := (finished.filter (·.result.isNone)).length
        comparisons := vs.length
        violations := (vs.filter (rig.judge s₂).violated).length
        transitive := ((vs.filter (rig.judge s₂).violated).filter (·.isTransitive)).length
        retired := (g₁.feedback (rig.judge s₂).violated vs).2
        records } := by
  unfold round at h
  split at h
  · cases h
  · cases h
  rename_i c g₁ s₁ generated
  split at h
  · cases h
  rename_i finished s₂ executed
  split at h
  · cases h
  rename_i vs checked
  unfold conclude at h
  dsimp only at h
  split at h
  · cases h
  rename_i records s₃ recorded
  split at h
  · cases h
  cases h
  exact ⟨c, g₁, s₁, finished, s₂, vs, records, s₃, generated, executed, checked, recorded, rfl, rfl⟩

/-- The counts of a report bound each other. -/
structure Report.Balanced (r : Report) : Prop where
  failed : r.failed ≤ r.jobs
  violations : r.violations ≤ r.comparisons
  transitive : r.transitive ≤ r.violations
  records : r.records ≤ r.comparisons

/-- **The counts of a round bound each other:** the failed jobs are among the jobs, the violations
among the pairs, those of orders with several steps among the violations, and no pair leads to two
records. -/
theorem round_balanced [Filing σ] {store : Option RecordStore}
    (h : round (rig.recording store) patience g s = (.ok (some r), g', s')) : r.Balanced := by
  obtain ⟨c, g₁, s₁, finished, s₂, vs, records, s₃, -, executed, -, recorded, -, rfl⟩ := round_ok h
  have ran := length_executeAll executed
  exact
    { failed := ran ▸ List.length_filter_le _ _
      violations := List.length_filter_le _ _
      transitive := List.length_filter_le _ _
      records := recordIn_le recorded }

/-- **A round generates one campaign,** and the orders that it retires are gone. -/
theorem round_settled (h : round rig patience g s = (.ok (some r), g', s')) :
    r.round = g'.round ∧ g'.round = g.round + 1 ∧
      r.retired + g'.orders.size = g.orders.size := by
  obtain ⟨c, g₁, s₁, finished, s₂, vs, records, s₃, generated, -, -, -, rfl, rfl⟩ := round_ok h
  obtain ⟨numbered, advanced, kept⟩ := Generator.generate_numbers generated
  have counted := g₁.count_feedback (rig.judge s₂).violated vs
  rw [kept] at counted
  exact ⟨numbered.trans advanced.symm, advanced, counted⟩

/-- Without a report, every order has retired, and nothing changes. -/
theorem round_none (h : round rig patience g s = (.ok none, g', s')) :
    g.isExhausted = true ∧ g' = g ∧ s' = s := by
  unfold round at h
  split at h
  · rename_i exhausted
    cases h
    exact Generator.generate_exhausted exhausted
  · cases h
  split at h
  · cases h
  split at h
  · cases h
  unfold conclude at h
  dsimp only at h
  split at h
  · cases h
  split at h
  · cases h
  · cases h

/-! ### Runs -/

/-- Rounds one after the other, each of which made a report. -/
inductive Rounds (rig : Rig σ) (patience : Nat) :
    Generator τ → σ → List Report → Generator τ → σ → Prop where
  | nil (g : Generator τ) (s : σ) : Rounds rig patience g s [] g s
  | cons {g g₁ g' : Generator τ} {s s₁ s' : σ} {r : Report} {rs : List Report} :
      round rig patience g s = (.ok (some r), g₁, s₁) → Rounds rig patience g₁ s₁ rs g' s' →
        Rounds rig patience g s (r :: rs) g' s'

/-- The sum of a count over reports. -/
def total (count : Report → Nat) : List Report → Nat
  | [] => 0
  | r :: rs => count r + total count rs

/-- What holds for the report of every round holds for all reports. -/
theorem Rounds.all {P : Report → Prop} {rs : List Report} (h : Rounds rig patience g s rs g' s')
    (step : ∀ {g g' : Generator τ} {s s' : σ} {r : Report},
      round rig patience g s = (.ok (some r), g', s') → P r) : ∀ r ∈ rs, P r := by
  induction h with
  | nil => simp
  | cons first _ ih =>
    intro r hr
    rcases List.mem_cons.mp hr with rfl | hr
    · exact step first
    · exact ih r hr

/-- **Rounds generate one campaign each,** and the orders that they retire are gone. -/
theorem Rounds.settled {rs : List Report} (h : Rounds rig patience g s rs g' s') :
    g'.round = g.round + rs.length ∧ total Report.retired rs + g'.orders.size = g.orders.size := by
  induction h with
  | nil => exact ⟨rfl, Nat.zero_add _⟩
  | cons first _ ih =>
    obtain ⟨-, numbered, counted⟩ := round_settled first
    obtain ⟨later, left⟩ := ih
    rw [List.length_cons, total]
    omega

/-- The sums grow by those over the reports. -/
theorem foldl_absorb (t : Stats) (rs : List Report) :
    rs.foldl Stats.absorb t = {
      rounds := t.rounds + rs.length
      jobs := t.jobs + total Report.jobs rs
      failed := t.failed + total Report.failed rs
      comparisons := t.comparisons + total Report.comparisons rs
      violations := t.violations + total Report.violations rs
      transitive := t.transitive + total Report.transitive rs
      records := t.records + total Report.records rs
      stop := t.stop } := by
  induction rs generalizing t with
  | nil => rfl
  | cons r rs ih =>
    rw [List.foldl_cons, ih]
    simp only [Stats.absorb, total, List.length_cons, Stats.mk.injEq, and_true]
    omega

/-- How a run ends after its last round: at the limit, without orders, or without fuel. -/
inductive Ending (limit : Option Nat) (g : Generator τ) (rounds : Nat) : Option StopReason → Prop where
  | limit {most : Nat} : limit = some most → most ≤ rounds → Ending limit g rounds (some .roundLimit)
  | exhausted : (∀ most, limit = some most → rounds < most) → g.isExhausted = true →
      Ending limit g rounds (some .exhausted)
  | fuel : (∀ most, limit = some most → rounds < most) → Ending limit g rounds none

/-- The limit is met or not. -/
theorem limit_cases (limit : Option Nat) (rounds : Nat) :
    ((limit.any fun most => most ≤ rounds) = true ∧ ∃ most, limit = some most ∧ most ≤ rounds) ∨
      ((limit.any fun most => most ≤ rounds) = false ∧
        ∀ most, limit = some most → rounds < most) := by
  cases limit with
  | none => exact .inr ⟨rfl, by simp⟩
  | some most =>
    by_cases met : most ≤ rounds
    · exact .inl ⟨by simp [met], most, rfl, met⟩
    · exact .inr ⟨by simp [met], by simp; omega⟩

/-- At the limit nothing more is done. -/
theorem run_of_met (fuel : Nat) (met : (limit.any fun most => most ≤ t.rounds) = true) :
    run rig patience limit fuel t g s = (.ok { t with stop := some .roundLimit }, g, s) := by
  unfold run
  rw [if_pos met]

/-- Below the limit a loop without fuel stays where it is. -/
theorem run_zero (unmet : (limit.any fun most => most ≤ t.rounds) = false) :
    run rig patience limit 0 t g s = (.ok t, g, s) := by
  unfold run
  rw [if_neg (Bool.eq_false_iff.mp unmet)]

/-- Below the limit a loop with fuel does a round. -/
theorem run_succ (fuel : Nat) (unmet : (limit.any fun most => most ≤ t.rounds) = false) :
    run rig patience limit (fuel + 1) t g s =
      match round rig patience g s with
      | (.error fault, g, s) => (.error fault, g, s)
      | (.ok none, g, s) => (.ok { t with stop := some .exhausted }, g, s)
      | (.ok (some r), g, s) => run rig patience limit fuel (t.absorb r) g s := by
  rw [run]
  exact if_neg (Bool.eq_false_iff.mp unmet)

/-- **A run is a sequence of rounds,** added up, and one of the endings. While it goes on, its rounds
stay below the limit. -/
theorem run_rounds {fuel : Nat} (unstopped : t.stop = none)
    (h : run rig patience limit fuel t g s = (.ok t', g', s')) :
    ∃ rs, Rounds rig patience g s rs g' s' ∧
      t' = { rs.foldl Stats.absorb t with stop := t'.stop } ∧
      Ending limit g' t'.rounds t'.stop ∧ (t'.stop = none → rs.length = fuel) ∧
      ∀ most, limit = some most → t.rounds ≤ most → t'.rounds ≤ most := by
  induction fuel generalizing t g s with
  | zero =>
    rcases limit_cases limit t.rounds with ⟨met, most, hmost, reached⟩ | ⟨unmet, below⟩
    · rw [run_of_met 0 met] at h
      cases h
      exact ⟨[], .nil _ _, rfl, .limit hmost reached, fun _ => rfl, fun _ _ => id⟩
    · rw [run_zero unmet] at h
      cases h
      refine ⟨[], .nil _ _, rfl, ?_, fun _ => rfl, fun _ _ => id⟩
      rw [unstopped]
      exact .fuel below
  | succ fuel ih =>
    rcases limit_cases limit t.rounds with ⟨met, most, hmost, reached⟩ | ⟨unmet, below⟩
    · rw [run_of_met _ met] at h
      cases h
      exact ⟨[], .nil _ _, rfl, .limit hmost reached, nofun, fun _ _ => id⟩
    rw [run_succ fuel unmet] at h
    split at h
    · cases h
    · rename_i ended
      obtain ⟨empty, rfl, rfl⟩ := round_none ended
      cases h
      exact ⟨[], .nil _ _, rfl, .exhausted below empty, nofun, fun _ _ => id⟩
    · rename_i r g₁ s₁ first
      obtain ⟨rs, rounds, sums, ending, spent, bounded⟩ := ih (t := t.absorb r) unstopped h
      refine ⟨r :: rs, .cons first rounds, sums, ending, fun unspent => ?_, fun most hmost _ => ?_⟩
      · rw [List.length_cons, spent unspent]
      · exact bounded most hmost (Nat.succ_le_of_lt (below most hmost))

/-- More fuel does not change a run that has stopped. -/
theorem run_of_le {fuel more : Nat} (unstopped : t.stop = none)
    (h : run rig patience limit fuel t g s = (.ok t', g', s')) (stopped : t'.stop.isSome = true)
    (le : fuel ≤ more) : run rig patience limit more t g s = (.ok t', g', s') := by
  induction fuel generalizing t g s more with
  | zero =>
    rcases limit_cases limit t.rounds with ⟨met, -⟩ | ⟨unmet, -⟩
    · rwa [run_of_met 0 met, ← run_of_met more met] at h
    · rw [run_zero unmet] at h
      cases h
      rw [unstopped] at stopped
      cases stopped
  | succ fuel ih =>
    rcases limit_cases limit t.rounds with ⟨met, -⟩ | ⟨unmet, -⟩
    · rwa [run_of_met _ met, ← run_of_met more met] at h
    obtain ⟨more, rfl⟩ : ∃ n, more = n + 1 := ⟨more - 1, by omega⟩
    rw [run_succ fuel unmet] at h
    rw [run_succ more unmet]
    split at h
    · cases h
    · exact h
    · exact ih unstopped h (by omega)

/-- With a limit, so many rounds are fuel enough. -/
theorem run_stops {most fuel : Nat} (enough : most ≤ fuel)
    (h : run rig patience (some most) fuel .zero g s = (.ok t, g', s')) :
    t.stop.isSome = true := by
  obtain ⟨rs, -, sums, ending, spent, -⟩ := run_rounds rfl h
  have rounds : t.rounds = 0 + rs.length := by
    rw [sums, foldl_absorb]
    rfl
  cases hstop : t.stop with
  | some reason => rfl
  | none =>
    -- the fuel is spent, so the limit is reached
    have length := spent hstop
    rw [hstop] at ending
    cases ending with
    | fuel below =>
      have := below most rfl
      omega

/-- **The accounts of a loop.** Let a loop run until it stops, on any generator, with any way to run
jobs, to judge results and to minimize violations, and with a store of records or none. Then it
consists of rounds that each made a report and generated one campaign, and these lead to the state
in which the loop ends. There are as many as are counted, and no more than the limit; every other
count is the sum over the reports. In each report there are no more failed jobs than jobs, no more
violations than pairs, no more violations of orders with several steps than violations, and no more
new records than pairs. The loop ends because of the limit if and only if there were as many rounds
as the limit allows, and else because the pool of orders is empty. The orders that retired in the
rounds and those that are left are together as many as at the start. -/
theorem run_accounts [Filing σ] (rig : Rig σ) (store : Option RecordStore) {fuel : Nat}
    (ended : run (rig.recording store) patience limit fuel .zero g s = (.ok t, g', s'))
    (stopped : t.stop.isSome = true) :
    ∃ reports, Rounds (rig.recording store) patience g s reports g' s' ∧
      g'.round = g.round + reports.length ∧
      (t.rounds = reports.length ∧ ∀ most, limit = some most → t.rounds ≤ most) ∧
      (t.jobs = total Report.jobs reports ∧ t.failed = total Report.failed reports ∧
        t.comparisons = total Report.comparisons reports ∧
        t.violations = total Report.violations reports ∧
        t.transitive = total Report.transitive reports ∧
        t.records = total Report.records reports) ∧
      (∀ r ∈ reports, r.failed ≤ r.jobs ∧ r.violations ≤ r.comparisons ∧
        r.transitive ≤ r.violations ∧ r.records ≤ r.comparisons) ∧
      (t.stop = some .roundLimit ↔ limit = some t.rounds) ∧
      (t.stop ≠ some .roundLimit → t.stop = some .exhausted ∧ g'.orders.items = []) ∧
      total Report.retired reports + g'.orders.size = g.orders.size := by
  obtain ⟨reports, rounds, sums, ending, -, bounded⟩ := run_rounds rfl ended
  obtain ⟨numbered, settled⟩ := rounds.settled
  rw [foldl_absorb] at sums
  have counted : t.rounds = reports.length ∧ t.jobs = total Report.jobs reports ∧
      t.failed = total Report.failed reports ∧ t.comparisons = total Report.comparisons reports ∧
      t.violations = total Report.violations reports ∧
      t.transitive = total Report.transitive reports ∧
      t.records = total Report.records reports := by
    rw [sums]
    simp [Stats.zero]
  have below (most : Nat) (hmost : limit = some most) : t.rounds ≤ most :=
    bounded most hmost (Nat.zero_le most)
  refine ⟨reports, rounds, numbered, ⟨counted.1, below⟩, counted.2, fun r hr => ?_, ?_, ?_, settled⟩
  · have balanced := rounds.all round_balanced r hr
    exact ⟨balanced.failed, balanced.violations, balanced.transitive, balanced.records⟩
  · generalize hstop : t.stop = stop at ending stopped
    cases ending with
    | limit hmost reached =>
      have exact : _ = t.rounds := Nat.le_antisymm reached (below _ hmost)
      exact iff_of_true rfl (exact ▸ hmost)
    | exhausted early _ =>
      refine iff_of_false (by decide) fun hmost => ?_
      exact Nat.lt_irrefl _ (early _ hmost)
    | fuel _ => cases stopped
  · generalize hstop : t.stop = stop at ending stopped
    intro other
    cases ending with
    | limit _ _ => exact absurd rfl other
    | exhausted _ empty =>
      refine ⟨rfl, ?_⟩
      rw [Pool.items, List.isEmpty_iff.mp empty]
      rfl
    | fuel _ => cases stopped

/-- A replay has no files. -/
instance replayFiling : Filing Replay where
  files _ := .empty
  refile r _ := r

/-- A rig on which each level finds what the next one misses. -/
def stairsRig : Rig Replay where
  execute job w := (.ok ⟨job, 0, (job.configuration.get? "k").map (·.name)⟩, w)
  judge _ :=
    ⟨fun level => if level = "A" then ["e1", "e2"] else if level = "B" then ["e1"] else [], none⟩
  record _ _ w := (.ok 0, w)
  minimize _ _ w := (.ok (), w)

/-- What its two rounds add up to. -/
def stairsStats : Stats := ⟨2, 5, 0, 2, 2, 0, 0, some .exhausted⟩

open Generator in
theorem run_accounts_stairs :
    ∃ reports g, g = (run (stairsRig.recording none) 1 none 3 .zero stairsStart
        (Replay.ofList [])).2.1 ∧ reports.length = 2 ∧ g.round = 2 ∧ g.orders.items = [] ∧
      total Report.jobs reports = 5 ∧ total Report.retired reports = 2 := by
  have ended : (run (stairsRig.recording none) 1 none 3 .zero stairsStart (Replay.ofList [])).1 =
      .ok stairsStats := by decide +kernel
  obtain ⟨reports, -, numbered, ⟨length, -⟩, ⟨jobs, -⟩, -, -, other, settled⟩ :=
    run_accounts stairsRig none (Prod.ext ended rfl) rfl
  obtain ⟨-, empty⟩ := other (by decide)
  refine ⟨reports, _, rfl, length.symm, ?_, empty, jobs.symm, ?_⟩
  · rw [numbered, ← length]
    rfl
  · have start : stairsStart.orders.size = 2 := by decide +kernel
    have left : Pool.size (run (stairsRig.recording none) 1 none 3 .zero stairsStart
        (Replay.ofList [])).2.1.orders = 0 := by
      rw [Pool.size, ← List.length_map, ← Pool.items, empty]
      rfl
    rw [start, left] at settled
    exact settled

end TrialLoop
end OrderTrials
