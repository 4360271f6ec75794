import Mathlib.Data.List.OffDiag
import OrderTrials.Proofs.Reporting
/-
# Checks of jobs in any arrangement

A check compares the jobs that have a result, each with each other one at another position
(`Comparison.pairs_eq_offDiag`). Which positions the jobs have decides about the order of the pairs
alone, and the pairs of two lists without a common target are those of either list
(`Comparison.pairs_perm`, `Comparison.pairs_append`). What is reported follows pair by pair
(`Comparison.examine_perm`), and so does whether anything is: one comparison that fails is met in
every arrangement. So a check is the same up to the order of its reports, however the jobs are
arranged, and jobs without a result do not matter (`Comparison.check_rearranged`).

Key definitions: `Comparison.Alike`, `Comparison.examine`.
Key theorems: `Comparison.pairs_eq_offDiag`, `Comparison.pairs_perm`, `Comparison.pairs_append`,
`Comparison.examine_perm`, `Comparison.check_rearranged`.
-/

namespace OrderTrials
namespace Comparison

variable {s : Space} {jobs others : List FinishedJob} {ps qs : List (FinishedJob × FinishedJob)}

/-! ### Answers up to order -/

/-- Two answers are alike: both are faults, or both list the same as often, in whatever order. -/
inductive Alike {ε α : Type} : Except ε (List α) → Except ε (List α) → Prop where
  | fault (e e' : ε) : Alike (.error e) (.error e')
  | perm {xs ys : List α} : xs.Perm ys → Alike (.ok xs) (.ok ys)

namespace Alike

variable {ε α : Type} {a b c : Except ε (List α)}

theorem refl (a : Except ε (List α)) : Alike a a := by
  cases a with
  | error e => exact .fault e e
  | ok xs => exact .perm (.refl xs)

theorem trans (h : Alike a b) (h' : Alike b c) : Alike a c := by
  cases h with
  | fault e _ =>
    cases h' with
    | fault _ e' => exact .fault e e'
  | perm first =>
    cases h' with
    | perm second => exact .perm (first.trans second)

/-- Alike answers stay alike with more listed before them. -/
theorem prepend (first : List α) (h : Alike a b) :
    Alike (do return first ++ (← a)) (do return first ++ (← b)) := by
  cases h with
  | fault e e' => exact .fault e e'
  | perm same => exact .perm (same.append_left first)

/-- What is alike to an answer without fault lists the same. -/
theorem of_ok {ys : List α} (h : Alike a (.ok ys)) : ∃ xs, a = .ok xs ∧ xs.Perm ys := by
  cases h with
  | perm same => exact ⟨_, rfl, same⟩

end Alike

/-! ### Pairs -/

/-- What is chosen of the members at other positions is chosen of the list without the member at
the position. -/
theorem filterMap_zipIdx_ne {α β : Type} (f : α → Option β) (l : List α) (n start : Nat) :
    ((l.zipIdx start).filterMap fun x => if start + n != x.2 then f x.1 else none) =
      (l.eraseIdx n).filterMap f := by
  induction l generalizing n start with
  | nil => rfl
  | cons a l ih =>
    rw [List.zipIdx_cons, List.filterMap_cons]
    cases n with
    | zero =>
      -- the members after the first one are all at other positions
      have later : ∀ x ∈ l.zipIdx (start + 1),
          (if start + 0 != x.2 then f x.1 else none) = f x.1 := by
        intro x hx
        have := List.le_snd_of_mem_zipIdx hx
        have apart : (start + 0 != x.2) = true := by simp; omega
        rw [if_pos apart]
      have whole : (l.zipIdx (start + 1)).filterMap (fun x => f x.1) = l.filterMap f := by
        conv_rhs => rw [← List.zipIdx_map_fst (start + 1) l, List.filterMap_map]
        rfl
      rw [List.filterMap_congr later, whole]
      simp
    | succ n =>
      have first : (start + (n + 1) != start) = true := by simp
      have shifted := ih n (start + 1)
      rw [show start + 1 + n = start + (n + 1) by omega] at shifted
      rw [List.eraseIdx_cons_succ, List.filterMap_cons, shifted]
      simp [first]

/-- **The pairs** are the partners at two positions among the jobs with results. -/
theorem pairs_eq_offDiag (jobs : List FinishedJob) :
    pairs jobs =
      (jobs.filter (·.result.isSome)).offDiag.filter fun p => isPartner p.1 p.2 := by
  rw [pairs, List.offDiag, List.filter_flatMap]
  refine List.flatMap_congr fun x _ => ?_
  have row := filterMap_zipIdx_ne
    (fun second => if isPartner x.1 second then some (x.1, second) else none)
    (jobs.filter (·.result.isSome)) x.2 0
  simp only [Nat.zero_add] at row
  calc
    _ = ((jobs.filter (·.result.isSome)).zipIdx.filterMap fun y =>
          if x.2 != y.2 then if isPartner x.1 y.1 then some (x.1, y.1) else none else none) := by
      refine List.filterMap_congr fun y _ => ?_
      by_cases apart : (x.2 != y.2) = true
      · simp [apart]
      · simp [apart]
    _ = _ := row
    _ = _ := by rw [List.filter_map, ← List.filterMap_eq_map, List.filterMap_filter]; rfl

/-- The arrangement of the jobs decides about the order of the pairs alone. -/
theorem pairs_perm {jobs' : List FinishedJob} (arranged : jobs'.Perm jobs) :
    (pairs jobs').Perm (pairs jobs) := by
  rw [pairs_eq_offDiag, pairs_eq_offDiag]
  exact ((arranged.filter _).offDiag).filter _

/-- A job without a result is in no pair. -/
theorem pairs_congr {jobs' : List FinishedJob}
    (same : jobs'.filter (·.result.isSome) = jobs.filter (·.result.isSome)) :
    pairs jobs' = pairs jobs := by
  rw [pairs_eq_offDiag, pairs_eq_offDiag, same]

/-- Jobs on two targets are no partners. -/
theorem isPartner_of_ne {f g : FinishedJob} (apart : f.target ≠ g.target) :
    isPartner f g = false := by
  simp [isPartner, apart]

/-- Without a common target, the partners at two positions of both lists are those at two positions
of either. -/
theorem offDiag_append {fs gs : List FinishedJob}
    (apart : ∀ f ∈ fs, ∀ g ∈ gs, f.target ≠ g.target) :
    ((fs ++ gs).offDiag.filter fun p => isPartner p.1 p.2).Perm
      ((fs.offDiag.filter fun p => isPartner p.1 p.2) ++
        gs.offDiag.filter fun p => isPartner p.1 p.2) := by
  induction fs with
  | nil => exact .refl _
  | cons f fs ih =>
    have rest := ih fun f' h => apart f' (List.mem_cons_of_mem f h)
    -- the first job has no partner in the second list, in neither direction
    have from_first : (gs.map (f, ·)).filter (fun p => isPartner p.1 p.2) = [] := by
      rw [List.filter_eq_nil_iff]
      intro p hp
      obtain ⟨g, hg, rfl⟩ := List.mem_map.mp hp
      simp [isPartner_of_ne (apart f List.mem_cons_self g hg)]
    have to_first : (gs.map (·, f)).filter (fun p => isPartner p.1 p.2) = [] := by
      rw [List.filter_eq_nil_iff]
      intro p hp
      obtain ⟨g, hg, rfl⟩ := List.mem_map.mp hp
      simp [isPartner_of_ne (apart f List.mem_cons_self g hg).symm]
    have all := (List.offDiag_cons_perm f (fs ++ gs)).filter fun p => isPartner p.1 p.2
    have own := (List.offDiag_cons_perm f fs).filter fun p => isPartner p.1 p.2
    simp only [List.map_append, List.filter_append, from_first, to_first, List.append_nil]
      at all own
    refine (all.trans (rest.append_left _)).trans ?_
    rw [← List.append_assoc]
    exact (own.append_right _).symm

/-- Without a common target, the pairs of both lists are those of either. -/
theorem pairs_append (apart : ∀ f ∈ jobs, ∀ g ∈ others, f.target ≠ g.target) :
    (pairs (jobs ++ others)).Perm (pairs jobs ++ pairs others) := by
  simp only [pairs_eq_offDiag, List.filter_append]
  exact offDiag_append fun f hf g hg =>
    apart f (List.mem_filter.mp hf).1 g (List.mem_filter.mp hg).1

/-! ### What is reported -/

/-- What comparing the given pairs reports, pair by pair. -/
def examine (s : Space) (ps : List (FinishedJob × FinishedJob)) :
    Except SpaceError (List Violation) := do
  let compared ← ps.mapM fun p => compare s p.1 p.2
  return compared.filterMap id

theorem check_eq_examine (s : Space) (jobs : List FinishedJob) :
    check s jobs = examine s (pairs jobs) := rfl

/-- A pair is compared before the rest, and what it reports comes first. -/
theorem examine_cons (s : Space) (p : FinishedJob × FinishedJob)
    (ps : List (FinishedJob × FinishedJob)) :
    examine s (p :: ps) = (do return (← compare s p.1 p.2).toList ++ (← examine s ps)) := by
  simp only [examine, List.mapM_cons]
  cases compare s p.1 p.2 with
  | error e => rfl
  | ok v =>
    cases ps.mapM fun p => compare s p.1 p.2 with
    | error e => rfl
    | ok vs => cases v <;> rfl

/-- The order of the pairs decides about the order of the reports alone, and, if several comparisons
fail, about the fault that is named. -/
theorem examine_perm (arranged : ps.Perm qs) : Alike (examine s ps) (examine s qs) := by
  induction arranged with
  | nil => exact .refl _
  | cons p _ ih =>
    rw [examine_cons, examine_cons]
    cases compare s p.1 p.2 with
    | error e => exact .fault e e
    | ok v => exact ih.prepend v.toList
  | swap p q ps =>
    rw [examine_cons, examine_cons, examine_cons, examine_cons]
    cases compare s p.1 p.2 with
    | error e =>
      cases compare s q.1 q.2 with
      | error e' => exact .fault e' e
      | ok w => exact .fault e e
    | ok v =>
      cases compare s q.1 q.2 with
      | error e' => exact .fault e' e'
      | ok w =>
        cases examine s ps with
        | error e => exact .fault e e
        | ok vs =>
          refine .perm ?_
          rw [← List.append_assoc, ← List.append_assoc]
          exact List.perm_append_comm.append_right _
  | trans _ _ first second => exact first.trans second

/-- Pairs in two parts are compared part by part. -/
theorem examine_append (s : Space) (ps qs : List (FinishedJob × FinishedJob)) :
    examine s (ps ++ qs) = (do return (← examine s ps) ++ (← examine s qs)) := by
  induction ps with
  | nil =>
    have start : examine s [] = .ok [] := rfl
    rw [List.nil_append, start]
    cases examine s qs <;> rfl
  | cons p ps ih =>
    rw [List.cons_append, examine_cons, examine_cons, ih]
    cases compare s p.1 p.2 with
    | error e => rfl
    | ok v =>
      cases examine s ps with
      | error e => rfl
      | ok vs =>
        cases examine s qs with
        | error e => rfl
        | ok ws => exact congrArg Except.ok (List.append_assoc v.toList vs ws).symm

/-- **A check of jobs in any arrangement.** A check of the jobs in another order fails if and only if
the check fails, and else it reports the same pairs with the same options and orders, each as often.
Where jobs without a result stand, and whether there are any, changes nothing. A check of jobs
together with jobs on other targets fails if one of the two checks fails, and else it reports what
they report. -/
theorem check_rearranged (s : Space) (jobs : List FinishedJob) :
    (∀ jobs' : List FinishedJob, jobs'.Perm jobs →
      Alike (check s jobs') (check s jobs)) ∧
    (∀ jobs' : List FinishedJob,
      jobs'.filter (·.result.isSome) = jobs.filter (·.result.isSome) →
        check s jobs' = check s jobs) ∧
    (∀ others : List FinishedJob, (∀ f ∈ jobs, ∀ g ∈ others, f.target ≠ g.target) →
      Alike (check s (jobs ++ others))
        (do return (← check s jobs) ++ (← check s others))) := by
  refine ⟨fun jobs' arranged => ?_, fun jobs' same => ?_, fun others apart => ?_⟩
  · exact examine_perm (pairs_perm arranged)
  · rw [check_eq_examine, check_eq_examine, pairs_congr same]
  · rw [check_eq_examine, check_eq_examine, check_eq_examine, ← examine_append]
    exact examine_perm (pairs_append apart)

/-- A finished job on another target. -/
def jobElsewhere (level : String) : FinishedJob :=
  { jobAt level with job := ⟨(jobAt level).configuration, ⟨"q"⟩⟩ }

theorem check_rearranged_stairs :
    let reports := [stairsPair "A" "B" false, stairsPair "A" "C" true, stairsPair "B" "C" false]
    let elsewhere : Violation :=
      { stairsPair "A" "B" false with first := jobElsewhere "A", second := jobElsewhere "B" }
    (∃ vs, check stairsSpace [jobAt "C", jobAt "A", jobAt "B"] = .ok vs ∧ vs.Perm reports) ∧
    check stairsSpace [{ jobAt "C" with result := none }, jobAt "A", jobAt "B", jobAt "C"] =
      .ok reports ∧
    ∃ vs, check stairsSpace ([jobAt "A", jobAt "B", jobAt "C"] ++
        [jobElsewhere "A", jobElsewhere "B"]) = .ok vs ∧ vs.Perm (reports ++ [elsewhere]) := by
  intro reports elsewhere
  obtain ⟨arranged, finished, apart⟩ :=
    check_rearranged stairsSpace [jobAt "A", jobAt "B", jobAt "C"]
  have checked : check stairsSpace [jobAt "A", jobAt "B", jobAt "C"] = .ok reports := by
    decide +kernel
  have others : check stairsSpace [jobElsewhere "A", jobElsewhere "B"] = .ok [elsewhere] := by
    decide +kernel
  rw [checked] at arranged finished apart
  refine ⟨(arranged _ (by decide +kernel)).of_ok, finished _ (by decide +kernel), ?_⟩
  have both := apart [jobElsewhere "A", jobElsewhere "B"] (by decide +kernel)
  rw [others] at both
  exact both.of_ok

end Comparison
end OrderTrials
