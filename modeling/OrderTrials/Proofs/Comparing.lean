import OrderTrials.Comparison
import OrderTrials.Proofs.Duality
import OrderTrials.Proofs.History
import OrderTrials.Proofs.Totality
/-
# What a comparison reports

A comparison of two jobs reports a pair if they are comparable, which is a matter of their
configurations, and if a relation leads from the level of the first to that of the second and is
declared (`Comparison.compare_eq_some_iff`). The leading relation is that of soundness wherever
soundness and, backwards, precision hold with what is induced; that of precision is looked at only
where they do not.

Key definitions: `Configuration.DifferOnlyAt`, `Dimension.leading?`, `Comparison.Comparable`,
`Comparison.report`.
Key theorems: `Comparison.compare_of_comparable`, `Comparison.compare_eq_some_iff`.
-/

namespace OrderTrials

/-- The other one of the two relations. -/
def Relation.other : Relation → Relation
  | .moreSound => .morePrecise
  | .morePrecise => .moreSound

/-! ### Configurations that differ in one option -/

namespace Configuration

variable {c c' : Configuration} {option : String}

/-- Two configurations give different levels to one option, and the same to every other one. -/
def DifferOnlyAt (c c' : Configuration) (option : String) : Prop :=
  ∀ other, c.get? other ≠ c'.get? other ↔ other = option

theorem mem_differing (c c' : Configuration) (option : String) :
    option ∈ c.differing c' ↔ ∃ l, c.get? option = some l ∧ c'.get? option ≠ some l := by
  simp only [differing, List.mem_map, List.mem_filter, bne_iff_ne]
  constructor
  · rintro ⟨e, ⟨he, hne⟩, rfl⟩
    exact ⟨e.2, (Table.get?_eq_some_iff _).mpr he, hne⟩
  · rintro ⟨l, hl, hne⟩
    exact ⟨(option, l), ⟨(Table.get?_eq_some_iff _).mp hl, hne⟩, rfl⟩

theorem nodup_differing (c c' : Configuration) : (c.differing c').Nodup :=
  c.assignment.nodup_keys.sublist (List.filter_sublist.map _)

/-- Among total configurations, the options listed as differing are those in which they differ. -/
theorem differing_eq_singleton_iff {s : Space} (total : s.Total c.assignment)
    (total' : s.Total c'.assignment) : c.differing c' = [option] ↔ c.DifferOnlyAt c' option := by
  have mem (k : String) : k ∈ c.differing c' ↔ c.get? k ≠ c'.get? k := by
    rw [mem_differing]
    cases hc : c.get? k with
    | none =>
      have same : (c.get? k).isSome = (c'.get? k).isSome := (total k).trans (total' k).symm
      have hc' : c'.get? k = none := by simpa [hc] using same.symm
      simp [hc']
    | some l => simp [eq_comm]
  constructor
  · intro h k
    rw [← mem, h, List.mem_singleton]
  · intro h
    have perm : (c.differing c').Perm [option] := by
      rw [List.perm_ext_iff_of_nodup (nodup_differing c c') (by simp)]
      intro k
      rw [mem, h k, List.mem_singleton]
    exact List.perm_singleton.mp perm

theorem DifferOnlyAt.get?_eq (h : c.DifferOnlyAt c' option) {other : String}
    (ho : other ≠ option) : c.get? other = c'.get? other :=
  Decidable.byContradiction fun hne => ho ((h other).mp hne)

/-- A configuration is any one that agrees with it up to an option, with its own level of that
option put in. -/
theorem assignment_eq_insert (h : ∀ other, other ≠ option → c.get? other = c'.get? other)
    {l : Level} (hl : c'.get? option = some l) :
    c'.assignment = c.assignment.insert option l := by
  apply Table.ext_get?
  intro k
  by_cases hk : k = option
  · subst hk
    rw [Table.get?_insert_self]
    exact hl
  · rw [Table.get?_insert_of_ne _ _ hk]
    exact (h k hk).symm

/-- Configurations of one option differ in it if their levels differ. -/
theorem differOnlyAt_single {l m : Level} (h : l ≠ m) (i j : Option String) :
    DifferOnlyAt ⟨Table.empty.insert option l, i⟩ ⟨Table.empty.insert option m, j⟩ option := by
  intro other
  by_cases hk : other = option
  · subst hk
    simpa [get?] using h
  · simp [get?, Table.get?_insert_of_ne, hk]

end Configuration

namespace Dimension

variable {d : Dimension} {a b : Level}

/-- The relation that a comparison reads from one known level to another, if there is one. -/
def leading? (d : Dimension) (a b : Level) : Option Relation :=
  if d.reach .moreSound a b true && d.reach .morePrecise b a true then some .moreSound
  else if d.reach .moreSound b a true && d.reach .morePrecise a b true then some .morePrecise
  else none

/-- The two orders that a leading relation names, the one of soundness first. -/
def ordersOf (d : Dimension) (a b : Level) : Relation → List DerivedOrder
  | .moreSound => [d.derived .moreSound a b, d.derived .morePrecise b a]
  | .morePrecise => [d.derived .moreSound b a, d.derived .morePrecise a b]

/-- A leading relation holds, and backwards the other one does. -/
theorem reach_of_leading {r : Relation} (h : d.leading? a b = some r) :
    d.reach r a b true = true ∧ d.reach r.other b a true = true := by
  unfold leading? at h
  split at h
  · rename_i hs
    obtain rfl := Option.some.inj h
    exact Bool.and_eq_true_iff.mp hs
  · split at h
    · rename_i hp
      obtain rfl := Option.some.inj h
      exact (Bool.and_eq_true_iff.mp hp).symm
    · simp at h

end Dimension

namespace Comparison

variable {s : Space} {first second : FinishedJob} {d : Dimension} {a b : Level} {option : String}

theorem relatedOrders_eq_ok_iff (d : Dimension) (a b : Level) (os : Option (List DerivedOrder)) :
    relatedOrders d a b = .ok os ↔ d.Knows a ∧ d.Knows b ∧
      os = if d.reach .moreSound a b true && d.reach .morePrecise b a true then
        some (d.ordersOf a b .moreSound) else none := by
  by_cases k : d.Knows a ∧ d.Knows b
  · obtain ⟨ka, kb⟩ := k
    unfold relatedOrders
    rw [Dimension.holds_of_knows ka kb, Dimension.holds_of_knows kb ka,
      Dimension.order?_of_knows ka kb, Dimension.order?_of_knows kb ka]
    simp only [bind, Except.bind, pure, Except.pure]
    cases d.reach .moreSound a b true <;> cases d.reach .morePrecise b a true <;>
      simp [ka, kb, Dimension.ordersOf, eq_comm]
  · constructor
    · intro h
      unfold relatedOrders at h
      obtain ⟨v, hv, -⟩ := (bind_eq_ok_iff _ _ _).mp h
      obtain ⟨ka, kb, -⟩ := (Dimension.holds_eq_ok_iff d _ a b _ v).mp hv
      exact absurd ⟨ka, kb⟩ k
    · rintro ⟨ka, kb, -⟩
      exact absurd ⟨ka, kb⟩ k

theorem ordersBetween_eq_ok_iff (d : Dimension) (a b : Level) (os : Option (List DerivedOrder)) :
    ordersBetween d a b = .ok os ↔ d.Knows a ∧ d.Knows b ∧
      os = (d.leading? a b).map (d.ordersOf a b) := by
  unfold ordersBetween Dimension.leading?
  rw [bind_eq_ok_iff]
  simp only [relatedOrders_eq_ok_iff]
  constructor
  · rintro ⟨_, ⟨ka, kb, rfl⟩, h⟩
    refine ⟨ka, kb, ?_⟩
    split at h
    · rename_i orders he
      split at he
      · rename_i hs
        rw [if_pos hs]
        rw [← Option.some.inj he] at h
        exact (Except.ok.inj h).symm
      · simp at he
    · rename_i he
      split at he
      · simp at he
      · rename_i hs
        obtain ⟨-, -, rfl⟩ := (relatedOrders_eq_ok_iff d b a os).mp h
        rw [if_neg hs]
        split <;> rfl
  · rintro ⟨ka, kb, rfl⟩
    refine ⟨_, ⟨ka, kb, rfl⟩, ?_⟩
    by_cases hs : (d.reach .moreSound a b true && d.reach .morePrecise b a true) = true
    · rw [if_pos hs, if_pos hs]
      rfl
    · rw [if_neg hs, if_neg hs]
      refine (relatedOrders_eq_ok_iff d b a _).mpr ⟨kb, ka, ?_⟩
      split <;> rfl

/-! ### Reports -/

/-- Two jobs whose configurations can be compared: they differ in the level of the option under
investigation alone. -/
structure Comparable (s : Space) (first second : FinishedJob) (option : String) (d : Dimension)
    (a b : Level) : Prop where
  investigated : first.investigated.or second.investigated = some option
  dimension : s.dimension? option = some d
  left : first.configuration.get? option = some a
  right : second.configuration.get? option = some b
  ne : a ≠ b
  differing : first.configuration.differing second.configuration = [option]

/-- The pair that is reported for a leading relation: its order from the first level to the
second, and behind it the other order from the second to the first. -/
def report (first second : FinishedJob) (option : String) (d : Dimension) (a b : Level)
    (r : Relation) : Violation :=
  ⟨first, second, option, [d.derived r a b, d.derived r.other b a]⟩

theorem isMain_derived (ha : first.configuration.get? option = some a)
    (hb : second.configuration.get? option = some b) (os : List DerivedOrder) (r : Relation)
    (x y : Level) :
    (⟨first, second, option, os⟩ : Violation).isMain (d.derived r x y) = (x == a && y == b) := by
  unfold Violation.isMain Violation.firstLevel? Violation.secondLevel?
  rw [ha, hb]
  rfl

theorem main?_report (h : Comparable s first second option d a b) (r : Relation) :
    (report first second option d a b r).main? = some (d.derived r a b) := by
  have main : (report first second option d a b r).isMain (d.derived r a b) = true := by
    rw [report, isMain_derived h.left h.right]
    simp
  exact List.find?_cons_of_pos main

/-- Of the orders that a leading relation names, the one from the first level to the second is
found, and a pair made of them is the report. -/
theorem make_report (h : Comparable s first second option d a b) (r : Relation) :
    ((d.ordersOf a b r).find? fun o => o.reads a b) = some (d.derived r a b) ∧
      Violation.make first second option (d.ordersOf a b r) =
        report first second option d a b r := by
  have forward (r' : Relation) : (d.derived r' a b).reads a b = true := by
    simp [Order.reads, Dimension.derived]
  have backward (r' : Relation) : (d.derived r' b a).reads a b = false := by
    have : (b == a) = false := by simpa using h.ne.symm
    simp [Order.reads, Dimension.derived, this]
  have main (os : List DerivedOrder) (r' : Relation) (x y : Level) :
      (⟨first, second, option, os⟩ : Violation).isMain (d.derived r' x y) =
        (d.derived r' x y).reads a b := isMain_derived h.left h.right os r' x y
  unfold Violation.make
  cases r with
  | moreSound =>
    constructor
    · exact List.find?_cons_of_pos (forward _)
    · simp only [Dimension.ordersOf, List.findIdx?_cons, main, forward, if_true]
      rfl
  | morePrecise =>
    constructor
    · rw [Dimension.ordersOf, List.find?_cons_of_neg (by simp [backward])]
      exact List.find?_cons_of_pos (forward _)
    · simp only [Dimension.ordersOf, List.findIdx?_cons, main, forward, backward, if_true,
        Bool.false_eq_true, if_false, Option.map_some]
      rfl

/-- **Comparable jobs** are reported if a relation leads from the one level to the other and is
declared. -/
theorem compare_of_comparable (h : Comparable s first second option d a b)
    (ka : d.Knows a) (kb : d.Knows b) :
    compare s first second = .ok (((d.leading? a b).filter fun r => d.reach r a b false).map
      (report first second option d a b)) := by
  unfold compare Space.dimension
  simp only [h.investigated, h.dimension, h.left, h.right, h.ne, h.differing, if_false,
    bne_self_eq_false, Bool.false_eq_true, bind, Except.bind, pure, Except.pure,
    (ordersBetween_eq_ok_iff d a b _).mpr ⟨ka, kb, rfl⟩]
  cases d.leading? a b with
  | none => rfl
  | some r =>
    obtain ⟨hfind, hmake⟩ := make_report h r
    have hexplicit : (d.derived r a b).explicit = d.reach r a b false := rfl
    simp only [Option.map_some, hfind, hmake, Option.any_some, hexplicit, Option.filter_some]
    split <;> rfl

/-- **A pair is reported if and only if** the jobs are comparable, both levels are known, and a
relation leads from the first level to the second and is declared. -/
theorem compare_eq_some_iff (s : Space) (first second : FinishedJob) (v : Violation) :
    compare s first second = .ok (some v) ↔
      ∃ option d a b r, Comparable s first second option d a b ∧ d.Knows a ∧ d.Knows b ∧
        d.leading? a b = some r ∧ d.reach r a b false = true ∧
        v = report first second option d a b r := by
  constructor
  · intro reported
    have h := reported
    unfold compare at h
    split at h
    case h_2 => cases h
    rename_i option hinvestigated
    obtain ⟨d, hd, h⟩ := (bind_eq_ok_iff _ _ _).mp h
    have hdimension := (s.dimension_eq_ok_iff option d).mp hd
    split at h
    case h_2 => cases h
    rename_i a ha
    split at h
    case h_2 => cases h
    rename_i b hb
    split at h
    · cases h
    rename_i hne
    split at h
    · cases h
    rename_i hdiffering
    have hc : Comparable s first second option d a b :=
      ⟨hinvestigated, hdimension, ha, hb, hne, by simpa using hdiffering⟩
    obtain ⟨os, hos, -⟩ := (bind_eq_ok_iff _ _ _).mp h
    obtain ⟨ka, kb, -⟩ := (ordersBetween_eq_ok_iff d a b os).mp hos
    rw [compare_of_comparable hc ka kb, Except.ok.injEq] at reported
    obtain ⟨r, hr, rfl⟩ := Option.map_eq_some_iff.mp reported
    obtain ⟨hl, he⟩ := Option.filter_eq_some_iff.mp hr
    exact ⟨option, d, a, b, r, hc, ka, kb, hl, he, rfl⟩
  · rintro ⟨option, d, a, b, r, hc, ka, kb, hl, he, rfl⟩
    rw [compare_of_comparable hc ka kb, hl, Option.filter_some, if_pos he, Option.map_some]

end Comparison

end OrderTrials
