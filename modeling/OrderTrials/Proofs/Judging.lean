import Mathlib.Data.Set.Basic
import OrderTrials.Proofs.Reporting
/-
# No false alarms

A pair is violated if the outputs of its jobs contradict its main order, and that is all
(`Judge.violated_iff`). Known results change which outputs count, for both jobs alike, so outputs
that agree with the order still do. An analysis that obeys the declared orders of an option is
monotone along chains of them, and the main order of a reported pair is such a chain: whatever the
levels, the analysis is not accused on that option (`Judge.not_violated_of_obeys`).

Key definitions: `Relation.Allows`, `Analysis`, `Analysis.Obeys`, `Judge.known?`, `Judge.counts`.
Key theorems: `Analysis.allows_of_chain`, `Analysis.allows_of_comparable`,
`Judge.counted_eq_filter`, `Judge.violated_iff`, `Judge.not_violated_of_obeys`.
-/

namespace OrderTrials

section

variable {R : Type}

/-- The outputs that a relation between levels allows: a sounder level misses nothing that the
other one finds, a more precise one finds nothing that the other one does not. -/
def Relation.Allows (r : Relation) (x y : Set R) : Prop :=
  match r with
  | .moreSound => y ⊆ x
  | .morePrecise => x ⊆ y

theorem Relation.allows_refl (r : Relation) (x : Set R) : r.Allows x x := by
  cases r <;> exact Set.Subset.refl x

theorem Relation.allows_trans (r : Relation) {x y z : Set R} (h : r.Allows x y)
    (h' : r.Allows y z) : r.Allows x z := by
  cases r with
  | moreSound => exact Set.Subset.trans h' h
  | morePrecise => exact Set.Subset.trans h h'

/-- An analysis: the results that it has on a target under an assignment. -/
abbrev Analysis (R : Type) := Target → Assignment → Set R

namespace Analysis

variable {S : Analysis R} {s : Space} {e : OptionEntry}

/-- An analysis obeys an order: the results with its left level and with its right level are such
as the relation allows, on every target and whatever the levels of the other options. -/
def Obeys (S : Analysis R) (s : Space) (o : Order) : Prop :=
  ∀ target c, s.Total c → o.relation.Allows (S target (c.insert o.option o.left))
    (S target (c.insert o.option o.right))

/-- **What holds of each declared order holds along chains of them.** -/
theorem allows_of_chain (obeys : ∀ o ∈ e.declared, S.Obeys s o) (target : Target) {c : Assignment}
    (total : s.Total c) {r : Relation} {n m : String}
    (chain : Relation.ReflTransGen (Stated e.declared r) n m) :
    r.Allows (S target (c.insert e.name ⟨e.name, n⟩)) (S target (c.insert e.name ⟨e.name, m⟩)) := by
  induction chain with
  | refl => exact r.allows_refl _
  | tail _ step ih =>
    obtain ⟨o, ho, rfl, rfl, rfl⟩ := step
    refine o.relation.allows_trans ih ?_
    have obeyed := obeys o ho target c total
    obtain ⟨entry, -, rfl⟩ := List.mem_map.mp ho
    exact obeyed

/-- **Comparable jobs.** If a chain of declared orders leads from the level of the first job to that
of the second, the results under their configurations are as the relation allows. -/
theorem allows_of_comparable (obeys : ∀ o ∈ e.declared, S.Obeys s o) {first second : FinishedJob}
    {d : Dimension} {a b : Level} (h : Comparison.Comparable s first second e.name d a b)
    (totalFirst : s.Total first.configuration.assignment)
    (totalSecond : s.Total second.configuration.assignment) (ha : a.option = e.name)
    (hb : b.option = e.name) {r : Relation}
    (chain : Relation.ReflTransGen (Stated e.declared r) a.name b.name) (target : Target) :
    r.Allows (S target first.configuration.assignment)
      (S target second.configuration.assignment) := by
  have allowed := allows_of_chain obeys target totalFirst chain
  have hl : (⟨e.name, a.name⟩ : Level) = a := by rw [← ha]
  have hr : (⟨e.name, b.name⟩ : Level) = b := by rw [← hb]
  have differ :=
    (Configuration.differing_eq_singleton_iff totalFirst totalSecond).mp h.differing
  -- both assignments are that of the first job with the level of one of the jobs put in
  rwa [hl, hr, ← Configuration.assignment_eq_insert (fun _ _ => rfl) h.left,
    ← Configuration.assignment_eq_insert (fun _ => differ.get?_eq) h.right] at allowed

end Analysis

end

/-! ### The pairs of a list of jobs -/

/-- What is computed from the members of a list is what one of them leads to. -/
theorem mem_iff_of_mapM_ok {α β ε : Type} {f : α → Except ε β} {xs : List α} {ys : List β}
    (h : xs.mapM f = .ok ys) (y : β) : y ∈ ys ↔ ∃ x ∈ xs, f x = .ok y := by
  induction xs generalizing ys with
  | nil =>
    obtain rfl := Except.ok.inj h
    simp
  | cons x xs ih =>
    rw [List.mapM_cons] at h
    obtain ⟨z, hz, h⟩ := (bind_eq_ok_iff _ _ _).mp h
    obtain ⟨zs, hzs, h⟩ := (bind_eq_ok_iff _ _ _).mp h
    obtain rfl := Except.ok.inj h
    simp only [List.mem_cons, ih hzs, exists_eq_or_imp, hz, Except.ok.injEq, eq_comm (a := y)]

namespace Comparison

variable {s : Space} {jobs : List FinishedJob} {vs : List Violation}

theorem isPartner_iff (first second : FinishedJob) :
    isPartner first second = true ↔ first.target = second.target ∧
      (second.investigated = none ∨ first.investigated = second.investigated) := by
  simp [isPartner]

/-- Both jobs of a pair are members of the list with a result, and the second is a partner of the
first. -/
theorem mem_pairs {p : FinishedJob × FinishedJob} (h : p ∈ pairs jobs) :
    (p.1 ∈ jobs ∧ p.1.result.isSome = true) ∧ (p.2 ∈ jobs ∧ p.2.result.isSome = true) ∧
      isPartner p.1 p.2 = true := by
  obtain ⟨⟨first, i⟩, hfirst, h⟩ := List.mem_flatMap.mp h
  obtain ⟨⟨second, k⟩, hsecond, h⟩ := List.mem_filterMap.mp h
  have finished {f : FinishedJob} {i : Nat}
      (hf : (f, i) ∈ (jobs.filter (·.result.isSome)).zipIdx) :
      f ∈ jobs ∧ f.result.isSome = true := by
    have hmem := List.fst_mem_of_mem_zipIdx hf
    exact List.mem_filter.mp hmem
  simp only [Option.ite_none_right_eq_some, Option.some.injEq, Bool.and_eq_true] at h
  obtain ⟨⟨-, partner⟩, rfl⟩ := h
  exact ⟨finished hfirst, finished hsecond, partner⟩

/-- The pairs that are reported are those of the list that a comparison reports. -/
theorem mem_check_iff (h : check s jobs = .ok vs) (v : Violation) :
    v ∈ vs ↔ ∃ p ∈ pairs jobs, compare s p.1 p.2 = .ok (some v) := by
  unfold check at h
  obtain ⟨compared, hc, h⟩ := (bind_eq_ok_iff _ _ _).mp h
  obtain rfl := Except.ok.inj h
  simp only [List.mem_filterMap, id_eq, exists_eq_right]
  exact mem_iff_of_mapM_ok hc (some v)

end Comparison

/-! ### Violated pairs -/

namespace Judge

open Comparison

variable {R : Type} [DecidableEq R] {judge : Judge R} {v : Violation}

/-- The true results of a target, if the judge knows them. -/
def known? (judge : Judge R) (target : Target) : Option (List R) :=
  judge.truth.bind (·.known? target)

/-- Whether a result counts for a pair: where the truth is known, false alarms do for precision, and
true results otherwise. -/
def counts (judge : Judge R) (v : Violation) (x : R) : Bool :=
  match judge.known? v.target with
  | none => true
  | some truths => truths.contains x != decide (v.relation? = some .morePrecise)

/-- What counts of the results of a job is chosen by a rule that does not look at the job. -/
theorem counted_eq_filter (judge : Judge R) (v : Violation) (f : FinishedJob) :
    judge.counted v f = (judge.resultsOf f).filter (judge.counts v) := by
  have all (xs : List R) : xs = xs.filter fun _ => true :=
    (List.filter_eq_self.mpr fun _ _ => rfl).symm
  unfold counted counts known? GroundTruth.truePart GroundTruth.falsePart
  cases judge.truth with
  | none => exact all _
  | some truth =>
    dsimp only [Option.bind_some]
    cases truth.known? v.target with
    | none => split <;> exact all _
    | some truths =>
      cases v.relation? with
      | none => exact List.filter_congr fun x _ => by simp
      | some r => cases r <;> exact List.filter_congr fun x _ => by simp

theorem counted_mono (judge : Judge R) (v : Violation) {f g : FinishedJob}
    (h : {x | x ∈ judge.resultsOf f} ⊆ {x | x ∈ judge.resultsOf g}) :
    {x | x ∈ judge.counted v f} ⊆ {x | x ∈ judge.counted v g} := by
  rw [counted_eq_filter, counted_eq_filter]
  intro x hx
  obtain ⟨hx, kept⟩ := List.mem_filter.mp hx
  exact List.mem_filter.mpr ⟨h hx, kept⟩

/-- **A pair is violated if and only if** what counts of the results is not as its main order
allows. -/
theorem violated_iff (judge : Judge R) (v : Violation) :
    judge.violated v = true ↔ ∃ r, v.relation? = some r ∧
      ¬ r.Allows {x | x ∈ judge.counted v v.first} {x | x ∈ judge.counted v v.second} := by
  have subset (xs ys : List R) :
      (xs.filter fun x => !ys.contains x).isEmpty = true ↔ {x | x ∈ xs} ⊆ {x | x ∈ ys} := by
    simp [List.filter_eq_nil_iff, Set.subset_def]
  unfold violated
  cases hr : v.relation? with
  | none => simp
  | some r =>
    cases r with
    | moreSound => simp [Relation.Allows, onlySecond, ← subset]
    | morePrecise => simp [Relation.Allows, onlyFirst, ← subset]

/-- Results that are as the main order allows make no violation, whatever is known to be true. -/
theorem not_violated_of_allows {r : Relation} (hr : v.relation? = some r)
    (h : r.Allows {x | x ∈ judge.resultsOf v.first} {x | x ∈ judge.resultsOf v.second}) :
    judge.violated v = false := by
  rw [Bool.eq_false_iff, Ne, violated_iff]
  rintro ⟨r', hr', hnot⟩
  obtain rfl : r = r' := Option.some.inj (hr.symm.trans hr')
  apply hnot
  cases r with
  | moreSound => exact judge.counted_mono v h
  | morePrecise => exact judge.counted_mono v h

/-- **No false alarms.** Let an analysis obey every order that an option of names declares. If the
results of finished jobs are those of the analysis, no pair on that option is violated, whether its
main order takes one step or several, and whatever is known to be true. -/
theorem not_violated_of_obeys {text : String} {s : Space} {artifact : Artifact} {e : OptionEntry}
    (accepted : Space.ofText text = .ok s) (read : Artifact.read? text = some artifact)
    (entry : e ∈ artifact.options) (names : e.isInteger = false)
    {S : Analysis R} (obeys : ∀ o ∈ e.declared, S.Obeys s o)
    {jobs : List FinishedJob} (total : ∀ f ∈ jobs, s.Total f.configuration.assignment)
    (judge : Judge R)
    (results : ∀ f ∈ jobs, f.result.isSome = true →
      ∀ x, x ∈ judge.resultsOf f ↔ x ∈ S f.target f.configuration.assignment)
    {vs : List Violation} (checked : check s jobs = .ok vs) {v : Violation}
    (mem : v ∈ vs) (option : v.option = e.name) :
    judge.violated v = false := by
  obtain ⟨⟨first, second⟩, hpair, hcompare⟩ := (mem_check_iff checked v).mp mem
  obtain ⟨⟨hfirst, rfirst⟩, ⟨hsecond, rsecond⟩, partner⟩ := mem_pairs hpair
  obtain ⟨htarget, -⟩ := (isPartner_iff first second).mp partner
  obtain ⟨_, d, a, b, r, hc, ka, kb, hl, explicit, rfl⟩ :=
    (compare_eq_some_iff s first second v).mp hcompare
  obtain rfl := option
  obtain ⟨d', hd', shows, hname, hint⟩ := s.dimension?_of_entry accepted read entry
  obtain rfl : d = d' := Option.some.inj (hc.dimension.symm.trans hd')
  have chain := shows.chain_of_reach (hint.trans names) explicit
  have allowed := Analysis.allows_of_comparable obeys hc (total first hfirst)
    (total second hsecond) (ka.1.trans hname) (kb.1.trans hname) chain first.target
  have outputs {f : FinishedJob} (hf : f ∈ jobs) (hr : f.result.isSome = true) :
      {x | x ∈ judge.resultsOf f} = S f.target f.configuration.assignment :=
    Set.ext fun x => results f hf hr x
  refine not_violated_of_allows (r := r) ?_ ?_
  · rw [Violation.relation?, main?_report hc r]
    rfl
  · change r.Allows {x | x ∈ judge.resultsOf first} {x | x ∈ judge.resultsOf second}
    have sameTarget : second.target = first.target := htarget.symm
    rwa [outputs hfirst rfirst, outputs hsecond rsecond, sameTarget]

/-- What is found at each of the three levels: the more precise the level, the less. -/
def stairsResults (level : String) : List String :=
  if level = "A" then ["e1"] else if level = "B" then ["e1", "e2"] else ["e1", "e2", "e3"]

/-- The analysis that finds this. -/
def stairsAnalysis : Analysis String := fun _ c =>
  {x | ∃ l, c.get? "k" = some l ∧ x ∈ stairsResults l.name}

theorem not_violated_of_obeys_stairs :
    check stairsSpace [jobAt "A", jobAt "B", jobAt "C"] =
        .ok [stairsPair "A" "B" false, stairsPair "A" "C" true, stairsPair "B" "C" false] ∧
      (Judge.mk stairsResults (some ⟨[(⟨"p"⟩, ["e2"])]⟩)).violated (stairsPair "A" "C" true) =
        false := by
  have checked : check stairsSpace [jobAt "A", jobAt "B", jobAt "C"] =
      .ok [stairsPair "A" "B" false, stairsPair "A" "C" true, stairsPair "B" "C" false] := by
    decide +kernel
  have levels {f : FinishedJob} (hf : f ∈ [jobAt "A", jobAt "B", jobAt "C"]) :
      ∃ level, f = jobAt level := by
    simp only [List.mem_cons, List.not_mem_nil, or_false] at hf
    rcases hf with rfl | rfl | rfl <;> exact ⟨_, rfl⟩
  have at_insert (target : Target) (c : Assignment) (l : Level) :
      stairsAnalysis target (c.insert "k" l) = {x | x ∈ stairsResults l.name} := by
    simp [stairsAnalysis]
  have obeys : ∀ o ∈ stairs.declared, stairsAnalysis.Obeys stairsSpace o := by
    intro o ho target c _
    simp only [OptionEntry.declared, stairs, List.map_cons, List.map_nil, List.mem_cons,
      List.not_mem_nil, or_false] at ho
    rcases ho with rfl | rfl
    · rw [at_insert, at_insert]
      simp [Relation.Allows, stairsResults]
    · rw [at_insert, at_insert]
      simp [Relation.Allows, stairsResults]
  refine ⟨checked, not_violated_of_obeys ofText_stairsText read_stairsText List.mem_cons_self rfl
    obeys ?_ _ ?_ checked (by simp) rfl⟩
  · intro f hf
    obtain ⟨level, rfl⟩ := levels hf
    exact total_jobAt rfl level
  · intro f hf _ x
    obtain ⟨level, rfl⟩ := levels hf
    exact (Set.ext_iff.mp (at_insert _ .empty ⟨"k", level⟩) x).symm

end Judge
end OrderTrials
