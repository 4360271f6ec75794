import OrderTrials.Proofs.Judging
/-
# When a pair is violated

The verdict on a pair is decided by one result: a pair of soundness is violated by one that the
second job has and the first has not, a pair of precision by one that the first job has and the
second has not. Where the true results of the target are known, such a result speaks against
soundness only if it is true, and against precision only if it is false. So every missing result
on such a target speaks against one of the two, and knowing more never adds a violation
(`Judge.violated_make`).

Key definitions: `Relation.Counts`, `Relation.Contradicts`.
Key theorems: `Judge.mem_counted_iff`, `Judge.violated_iff_exists`, `Judge.violated_make`.
-/

namespace OrderTrials

/-- Making a pair of jobs reorders its orders and keeps everything else. -/
theorem Violation.make_frame (first second : FinishedJob) (option : String)
    (orders : List DerivedOrder) :
    (make first second option orders).first = first ∧
      (make first second option orders).second = second ∧
      (make first second option orders).option = option := by
  unfold make
  dsimp only
  split <;> exact ⟨rfl, rfl, rfl⟩

section

variable {R : Type}

/-- A result counts for a relation: if the true results are known, soundness asks for true ones
and precision for false alarms. -/
def Relation.Counts (r : Relation) (known : Option (List R)) (x : R) : Prop :=
  ∀ truths, known = some truths →
    match r with
    | .moreSound => x ∈ truths
    | .morePrecise => x ∉ truths

/-- A result that only one of two jobs has contradicts a relation from the first to the second. -/
def Relation.Contradicts (r : Relation) (first second : List R) (x : R) : Prop :=
  match r with
  | .moreSound => x ∈ second ∧ x ∉ first
  | .morePrecise => x ∈ first ∧ x ∉ second

theorem Relation.counts_none (r : Relation) (x : R) : r.Counts none x := by
  rintro truths ⟨⟩

/-- Where the truth is known, every result counts for exactly one of the two relations. -/
theorem Relation.counts_some_iff (truths : List R) (x : R) :
    (Relation.moreSound.Counts (some truths) x ↔ x ∈ truths) ∧
      (Relation.morePrecise.Counts (some truths) x ↔ x ∉ truths) := by
  constructor <;> simp [Counts]

theorem Relation.not_allows_iff (r : Relation) (first second : List R) :
    ¬ r.Allows {x | x ∈ first} {x | x ∈ second} ↔ ∃ x, r.Contradicts first second x := by
  cases r <;> exact Set.not_subset

end

namespace Judge

open Comparison

variable {R : Type} [DecidableEq R] {judge : Judge R} {v : Violation} {r : Relation}

/-- What a reader makes of files: the result of a job is what can be read, or nothing. -/
theorem mem_resultsOf_iff {reader : Reader R} {files : FileTree}
    (reads : judge.results = reader.readOrEmpty files) (f : FinishedJob) (x : R) :
    x ∈ judge.resultsOf f ↔
      ∃ path found, f.result = some path ∧ reader.read files path = .ok found ∧ x ∈ found := by
  unfold resultsOf
  cases f.result with
  | none => simp
  | some path =>
    rw [reads]
    unfold Reader.readOrEmpty
    cases hread : reader.read files path <;> simp [hread]

/-- **What counts for a pair** are the results that count for its relation on its target. -/
theorem mem_counted_iff (hr : v.relation? = some r) (f : FinishedJob) (x : R) :
    x ∈ judge.counted v f ↔ x ∈ judge.resultsOf f ∧ r.Counts (judge.known? v.target) x := by
  rw [counted_eq_filter, List.mem_filter]
  refine and_congr_right fun _ => ?_
  unfold counts Relation.Counts
  rw [hr]
  cases judge.known? v.target with
  | none => simp
  | some truths => cases r <;> simp

/-- **A pair is violated by one result** that contradicts its relation and counts for it. -/
theorem violated_iff_exists (judge : Judge R) (hr : v.relation? = some r) :
    judge.violated v = true ↔ ∃ x, r.Contradicts (judge.resultsOf v.first)
      (judge.resultsOf v.second) x ∧ r.Counts (judge.known? v.target) x := by
  rw [violated_iff]
  simp only [hr, Option.some.injEq, exists_eq_left', Relation.not_allows_iff]
  refine exists_congr fun x => ?_
  -- a result counts for both jobs or for neither
  cases r <;> simp only [Relation.Contradicts, mem_counted_iff hr] <;> grind

theorem not_violated_of_main?_eq_none (h : v.main? = none) : judge.violated v = false := by
  unfold violated Violation.relation?
  rw [h]
  rfl

/-- A pair that is not violated without known results is not violated with them. -/
theorem not_violated_with_truth (unknown : judge.known? v.target = none)
    (h : judge.violated v = false) (truth : Option (GroundTruth R)) :
    Judge.violated ⟨judge.results, truth⟩ v = false := by
  cases hr : v.relation? with
  | none => exact not_violated_of_main?_eq_none (Option.map_eq_none_iff.mp hr)
  | some r =>
    rw [Bool.eq_false_iff, Ne, violated_iff_exists _ hr] at h ⊢
    rintro ⟨x, contradicts, -⟩
    exact h ⟨x, contradicts, unknown ▸ r.counts_none x⟩

/-- **The verdict on a pair.** Let a pair be made of two jobs. If its main order is one of
soundness, it is violated if and only if the second job has a result that the first has not and,
where the truth is known, one that is true. If its main order is one of precision, it is violated
if and only if the first job has a result that the second has not and, where the truth is known,
one that is false. Without a main order it is not violated.

Hence jobs with equal results never violate a pair, and known results never make a violation where
there was none without them. On a target with known results, a result that the first job lacks
violates the pair of soundness or the mirrored pair of precision. Results that cannot be read are
no results. -/
theorem violated_make (judge : Judge R) (first second : FinishedJob) (option : String)
    (orders : List DerivedOrder) :
    let pair := Violation.make first second option orders
    (pair.relation? = some .moreSound → (judge.violated pair = true ↔
      ∃ x, x ∈ judge.resultsOf second ∧ x ∉ judge.resultsOf first ∧
        ∀ truths, judge.known? first.target = some truths → x ∈ truths)) ∧
    (pair.relation? = some .morePrecise → (judge.violated pair = true ↔
      ∃ x, x ∈ judge.resultsOf first ∧ x ∉ judge.resultsOf second ∧
        ∀ truths, judge.known? first.target = some truths → x ∉ truths)) ∧
    (pair.main? = none → judge.violated pair = false) ∧
    ((∀ x, x ∈ judge.resultsOf first ↔ x ∈ judge.resultsOf second) →
      judge.violated pair = false) ∧
    (judge.known? first.target = none → judge.violated pair = false →
      ∀ truth, Judge.violated ⟨judge.results, truth⟩ pair = false) ∧
    (∀ orders' truths, judge.known? first.target = some truths →
      judge.known? second.target = some truths → pair.relation? = some .moreSound →
      (Violation.make second first option orders').relation? = some .morePrecise →
      ((∃ x, x ∈ judge.resultsOf second ∧ x ∉ judge.resultsOf first) ↔
        judge.violated pair = true ∨
          judge.violated (Violation.make second first option orders') = true)) ∧
    (∀ (reader : Reader R) (files : FileTree), judge.results = reader.readOrEmpty files →
      ∀ f x, x ∈ judge.resultsOf f ↔
        ∃ path found, f.result = some path ∧ reader.read files path = .ok found ∧ x ∈ found) := by
  intro pair
  have hfirst : pair.first = first := (Violation.make_frame first second option orders).1
  have hsecond : pair.second = second := (Violation.make_frame first second option orders).2.1
  have htarget : pair.target = first.target := congrArg FinishedJob.target hfirst
  have sound (hr : pair.relation? = some .moreSound) := violated_iff_exists judge hr
  have precise (hr : pair.relation? = some .morePrecise) := violated_iff_exists judge hr
  rw [hfirst, hsecond, htarget] at sound precise
  refine ⟨fun hr => ?_, fun hr => ?_, not_violated_of_main?_eq_none, fun same => ?_,
    fun unknown => not_violated_with_truth (htarget ▸ unknown), ?_, fun _ _ => mem_resultsOf_iff⟩
  · simp only [sound hr, Relation.Contradicts, Relation.Counts, and_assoc]
  · simp only [precise hr, Relation.Contradicts, Relation.Counts, and_assoc]
  · cases hr : pair.relation? with
    | none => exact not_violated_of_main?_eq_none (Option.map_eq_none_iff.mp hr)
    | some r =>
      have sets : {x | x ∈ judge.resultsOf pair.first} = {x | x ∈ judge.resultsOf pair.second} := by
        rw [hfirst, hsecond]
        exact Set.ext same
      exact not_violated_of_allows hr (sets ▸ r.allows_refl _)
  · intro orders' truths known known' hr hr'
    have mirrored := violated_iff_exists judge hr'
    obtain ⟨hfirst', hsecond', -⟩ := Violation.make_frame second first option orders'
    have htarget' : (Violation.make second first option orders').target = second.target :=
      congrArg FinishedJob.target hfirst'
    rw [hfirst', hsecond', htarget', known'] at mirrored
    rw [sound hr, mirrored, known]
    simp only [Relation.Contradicts, (Relation.counts_some_iff truths _).1,
      (Relation.counts_some_iff truths _).2, ← exists_or, ← and_or_left, em, and_true]

/-- What two runs find: the run of the sounder level lacks a result that the other run has. -/
def lackingJudge (truths : List String) : Judge String :=
  ⟨fun level => if level = "A" then ["e1"] else ["e1", "e2"], some ⟨[(⟨"p"⟩, truths)]⟩⟩

theorem violated_make_lacking :
    (lackingJudge ["e1", "e2"]).violated
        (.make (jobAt "A") (jobAt "B") "k" [orderAt "A" .moreSound "B" true false]) = true ∧
      ((lackingJudge ["e1"]).violated
          (.make (jobAt "A") (jobAt "B") "k" [orderAt "A" .moreSound "B" true false]) = true ∨
        (lackingJudge ["e1"]).violated
          (.make (jobAt "B") (jobAt "A") "k" [orderAt "B" .morePrecise "A" true false]) = true) := by
  constructor
  · exact ((violated_make _ _ _ _ _).1 rfl).mpr ⟨"e2", by decide, by decide, by decide⟩
  · exact ((violated_make _ _ _ _ _).2.2.2.2.2.1 _ ["e1"] rfl rfl rfl rfl).mp
      ⟨"e2", by decide, by decide⟩

end Judge
end OrderTrials
