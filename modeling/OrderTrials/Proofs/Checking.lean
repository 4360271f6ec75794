import OrderTrials.Proofs.Judging
import OrderTrials.Proofs.Knowing
/-
# Checks that give an answer

A comparison fails on an option that the space does not have and on a level that its dimension does
not know, and on nothing else. So a check of jobs whose levels are all known gives an answer. It
reports each two jobs on one target that investigate an option, differ in it alone and have a
declared order between their levels, unless the order is shadowed.

Key definitions: `Space.Known`.
Key theorems: `Configuration.get?_default`, `Comparison.compare_defined`,
`Comparison.check_of_known`, `Comparison.compare_of_stated`.
-/

namespace OrderTrials

/-- Every level of an assignment is one that its dimension knows. -/
def Space.Known (s : Space) (a : Assignment) : Prop :=
  ∀ k d l, s.dimension? k = some d → a.get? k = some l → d.Knows l

/-! ### The default configuration -/

namespace Configuration

variable {s : Space} {a : Assignment} {c : Configuration} {d : Dimension} {k text : String}
  {l : Level}

/-- Going through dimensions adds defaults of them and nothing else. -/
theorem level_of_foldlM {ds : List Dimension} {full : Assignment}
    (h : ds.foldlM (fun (a : Assignment) d => do
      if a.contains d.name then return a
      else return a.insert d.name (← d.defaultLevel)) a = .ok full) (hl : full.get? k = some l) :
    a.get? k = some l ∨ ∃ d ∈ ds, d.name = k ∧ d.defaultLevel = .ok l := by
  refine invariant_of_foldlM
    (p := fun c : Assignment => c.get? k = some l →
      a.get? k = some l ∨ ∃ d ∈ ds, d.name = k ∧ d.defaultLevel = .ok l)
    (fun d hd c next before hnext hl => ?_) .inl h hl
  split at hnext
  · obtain rfl := Except.ok.inj hnext
    exact before hl
  · obtain ⟨m, hm, hnext⟩ := (bind_eq_ok_iff _ _ _).mp hnext
    obtain rfl := Except.ok.inj hnext
    by_cases hk : k = d.name
    · subst hk
      rw [Table.get?_insert_self] at hl
      exact .inr ⟨d, hd, rfl, Option.some.inj hl ▸ hm⟩
    · rw [Table.get?_insert_of_ne _ _ hk] at hl
      exact before hl

/-- A completed configuration has the levels that were given, and defaults elsewhere. -/
theorem level_of_complete {given : Assignment} (named : s.WellNamed) (h : complete s given = .ok c)
    (hd : s.dimension? k = some d) (hl : c.get? k = some l) :
    given.get? k = some l ∨ d.defaultLevel = .ok l := by
  unfold complete at h
  obtain ⟨full, hfull, h⟩ := (bind_eq_ok_iff _ _ _).mp h
  obtain rfl := Except.ok.inj h
  refine (level_of_foldlM hfull hl).imp_right ?_
  rintro ⟨d', hd', hname, hdefault⟩
  obtain ⟨k', hk'⟩ := (s.mem_values_iff d').mp hd'
  obtain rfl : k' = k := (named k' d' hk').symm.trans hname
  obtain rfl : d = d' := Option.some.inj (hd.symm.trans hk')
  exact hdefault

/-- **The default configuration has the default of each option.** -/
theorem get?_default (named : s.WellNamed) (h : default s = .ok c) (hd : s.dimension? k = some d) :
    ∃ l, c.get? k = some l ∧ d.defaultLevel = .ok l := by
  have total := total_default named h k
  rw [hd] at total
  obtain ⟨l, hl⟩ := Option.isSome_iff_exists.mp total
  refine ⟨l, hl, (level_of_complete named h hd hl).resolve_left fun found => ?_⟩
  simp [Table.empty, Table.get?] at found

theorem known_default (accepted : Space.ofText text = .ok s) (h : default s = .ok c) :
    s.Known c.assignment := by
  intro k d l hd hl
  obtain ⟨l', hl', hdefault⟩ := get?_default (Space.wellNamed_of_text accepted) h hd
  obtain rfl : l' = l := Option.some.inj (hl'.symm.trans hl)
  exact (Space.wellFormed_of_text accepted hd).knows_default hdefault

end Configuration

/-! ### Comparisons that give an answer -/

/-- What can be computed from each member of a list can be computed from the list. -/
theorem mapM_defined {α β ε : Type} {f : α → Except ε β} {xs : List α}
    (h : ∀ x ∈ xs, ∃ y, f x = .ok y) : ∃ ys, xs.mapM f = .ok ys := by
  induction xs with
  | nil => exact ⟨[], rfl⟩
  | cons x xs ih =>
    obtain ⟨y, hy⟩ := h x List.mem_cons_self
    obtain ⟨ys, hys⟩ := ih fun x' hx' => h x' (List.mem_cons_of_mem x hx')
    exact ⟨y :: ys, by rw [List.mapM_cons, hy, hys]; rfl⟩

namespace Comparison

variable {s : Space} {first second : FinishedJob} {jobs : List FinishedJob}

/-- **A comparison gives an answer** if the option under investigation is one of the space and all
levels are known. -/
theorem compare_defined (own : ∀ option, first.investigated.or second.investigated = some option →
      (s.dimension? option).isSome = true)
    (knownFirst : s.Known first.configuration.assignment)
    (knownSecond : s.Known second.configuration.assignment) :
    ∃ o, compare s first second = .ok o := by
  unfold compare Space.dimension
  cases hi : first.investigated.or second.investigated with
  | none => exact ⟨none, rfl⟩
  | some option =>
    obtain ⟨d, hd⟩ := Option.isSome_iff_exists.mp (own option hi)
    simp only [hd, bind, Except.bind]
    cases ha : first.configuration.get? option with
    | none => exact ⟨none, rfl⟩
    | some a =>
      cases hb : second.configuration.get? option with
      | none => exact ⟨none, rfl⟩
      | some b =>
        have ka : d.Knows a := knownFirst option d a hd ha
        have kb : d.Knows b := knownSecond option d b hd hb
        simp only [(ordersBetween_eq_ok_iff d a b _).mpr ⟨ka, kb, rfl⟩]
        split
        · exact ⟨none, rfl⟩
        split
        · exact ⟨none, rfl⟩
        split
        · split <;> exact ⟨_, rfl⟩
        · exact ⟨none, rfl⟩

theorem check_defined (h : ∀ p ∈ pairs jobs, ∃ o, compare s p.1 p.2 = .ok o) :
    ∃ vs, check s jobs = .ok vs := by
  obtain ⟨compared, hc⟩ := mapM_defined h
  exact ⟨compared.filterMap id, by rw [check, hc]; rfl⟩

/-- **A check gives an answer** if every job has known levels and investigates an option of the
space, or none. -/
theorem check_of_known (known : ∀ f ∈ jobs, s.Known f.configuration.assignment)
    (own : ∀ f ∈ jobs, ∀ option, f.investigated = some option →
      (s.dimension? option).isSome = true) : ∃ vs, check s jobs = .ok vs := by
  refine check_defined fun p hp => ?_
  obtain ⟨⟨hfirst, -⟩, ⟨hsecond, -⟩, -⟩ := mem_pairs hp
  refine compare_defined (fun option hi => ?_) (known _ hfirst) (known _ hsecond)
  rcases Option.or_eq_some_iff.mp hi with hi | ⟨-, hi⟩
  · exact own _ hfirst option hi
  · exact own _ hsecond option hi

/-- Two different jobs with results make a pair if the second is a partner of the first. -/
theorem mem_pairs_of_partner (hf : first ∈ jobs ∧ first.result.isSome = true)
    (hs : second ∈ jobs ∧ second.result.isSome = true) (ne : first ≠ second)
    (partner : isPartner first second = true) : (first, second) ∈ pairs jobs := by
  obtain ⟨i, hi⟩ := List.mem_iff_getElem?.mp
    (List.mem_filter.mpr hf : first ∈ jobs.filter (·.result.isSome))
  obtain ⟨k, hk⟩ := List.mem_iff_getElem?.mp
    (List.mem_filter.mpr hs : second ∈ jobs.filter (·.result.isSome))
  have apart : i ≠ k := by
    rintro rfl
    exact ne (Option.some.inj (hi.symm.trans hk))
  refine List.mem_flatMap.mpr ⟨(first, i), List.mem_zipIdx_iff_getElem?.mpr hi, ?_⟩
  refine List.mem_filterMap.mpr ⟨(second, k), List.mem_zipIdx_iff_getElem?.mpr hk, ?_⟩
  simp [apart, partner]

/-- Jobs are comparable if the first investigates an option in which their levels differ and they
agree elsewhere. -/
theorem comparable_of_agree {option : String} {d : Dimension} {a b : Level}
    (total : s.Total first.configuration.assignment)
    (total' : s.Total second.configuration.assignment)
    (investigated : first.investigated = some option) (hd : s.dimension? option = some d)
    (left : first.configuration.get? option = some a)
    (right : second.configuration.get? option = some b) (ne : a ≠ b)
    (agree : ∀ other, other ≠ option →
      first.configuration.get? other = second.configuration.get? other) :
    Comparable s first second option d a b := by
  refine ⟨by rw [investigated]; rfl, hd, left, right, ne, ?_⟩
  refine (Configuration.differing_eq_singleton_iff total total').mpr fun other => ?_
  by_cases h : other = option
  · subst h
    simp [left, right, ne]
  · simp [agree other h, h]

/-- Two jobs of one option of names with its declared order between their levels: they are
reported unless the order is shadowed. -/
theorem compare_of_stated {option : String} {d : Dimension} {a b : Level} {orders : List Order}
    {r : Relation} (h : Comparable s first second option d a b) (ka : d.Knows a) (kb : d.Knows b)
    (shows : d.Shows orders) (names : d.isInteger = false) (stated : Stated orders r a.name b.name)
    (unshadowed : ¬ d.Shadowed a b) :
    ∃ r', compare s first second = .ok (some (report first second option d a b r')) := by
  have reached := shows.reach_of_stated names stated
  obtain ⟨r', leading, declared⟩ := (shows.leading_declared_iff reached ka kb).mpr unshadowed
  exact ⟨r', (compare_eq_some_iff s first second _).mpr
    ⟨option, d, a, b, r', h, ka, kb, leading, declared, rfl⟩⟩

end Comparison

end OrderTrials
