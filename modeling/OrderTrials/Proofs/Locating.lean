import OrderTrials.Proofs.Listing
import OrderTrials.Proofs.Verdicts
/-
# Where a violation lies

Feedback passes over violations of orders that need several steps. It loses nothing by that: if
the levels of a chain of declared soundness orders all have jobs, a violation between its two ends
is also one of a declared order of the chain (`Judge.exists_direct_violated`). One result speaks
against the ends, because the last level has it and the first has not. Along the chain it turns up
somewhere between two neighbours (`Dimension.Chain.exists_link`), whose jobs are paired and judged
by the same results.

Key definitions: `Dimension.Chain`, `Comparison.MutantsOf`.
Key theorems: `Dimension.Chain.exists_link`, `Comparison.MutantsOf.reported`,
`Judge.exists_direct_violated`.
-/

namespace OrderTrials

/-! ### Chains of declared orders -/

namespace Dimension

variable {d : Dimension} {r : Relation} {a b : Level} {os : List Order}

/-- Declared orders of one relation, each of which begins where the one before it ends. -/
inductive Chain (d : Dimension) (r : Relation) : Level → List Order → Level → Prop where
  | nil (a : Level) : Chain d r a [] a
  | cons {o : Order} {os : List Order} {b : Level} : o ∈ d.declaredOrders → o.relation = r →
      Chain d r o.right os b → Chain d r o.left (o :: os) b

/-- **A change along a chain happens at one of its orders,** and at one between different levels. -/
theorem Chain.exists_link (before after : Level → Prop) (chain : d.Chain r a os b) (ne : a ≠ b)
    (start : before a) (finish : after b) (decided : ∀ o ∈ os, before o.right ∨ after o.right) :
    ∃ o ∈ os, o ∈ d.declaredOrders ∧ o.relation = r ∧ o.left ≠ o.right ∧
      before o.left ∧ after o.right := by
  induction chain with
  | nil a => exact absurd rfl ne
  | @cons o os b declared relation rest ih =>
    have later (ne : o.right ≠ b) (start : before o.right) :
        ∃ o' ∈ o :: os, o' ∈ d.declaredOrders ∧ o'.relation = r ∧ o'.left ≠ o'.right ∧
          before o'.left ∧ after o'.right := by
      obtain ⟨o', mem, link⟩ :=
        ih ne start finish fun o' ho' => decided o' (List.mem_cons_of_mem o ho')
      exact ⟨o', List.mem_cons_of_mem o mem, link⟩
    by_cases loop : o.left = o.right
    · exact later (loop ▸ ne) (loop ▸ start)
    · by_cases found : after o.right
      · exact ⟨o, List.mem_cons_self, declared, relation, loop, start, found⟩
      · refine later (fun last => found (last ▸ finish)) ?_
        exact (decided o List.mem_cons_self).resolve_right found

end Dimension

/-! ### Mutants of one seed in one option -/

/-- Mutants of a seed with different levels of one option differ in this option alone. -/
theorem Configuration.differing_mutated (seed : Configuration) {l m : Level}
    (same : l.option = m.option) (ne : l ≠ m) :
    (seed.mutated l).differing (seed.mutated m) = [l.option] := by
  have perm : ((seed.mutated l).differing (seed.mutated m)).Perm [l.option] := by
    rw [List.perm_ext_iff_of_nodup (nodup_differing _ _) (List.nodup_singleton _)]
    intro k
    rw [mem_differing, List.mem_singleton, Mutation.get?_mutated, Mutation.get?_mutated, ← same]
    by_cases hk : k = l.option
    · simp [hk, Ne.symm ne]
    · simp [hk]
  exact List.perm_singleton.mp perm

namespace Comparison

variable {s : Space} {seed : Configuration} {option : String} {target : Target} {d : Dimension}
  {orders : List Order} {o : Order} {jobs : List FinishedJob} {vs : List Violation}
  {first second : FinishedJob}

/-- Finished jobs with results, all on one target, of mutants of one seed that investigate one
option. -/
def MutantsOf (seed : Configuration) (option : String) (target : Target)
    (jobs : List FinishedJob) : Prop :=
  ∀ f ∈ jobs, f.result.isSome = true ∧ f.target = target ∧
    ∃ l : Level, l.option = option ∧ f.configuration = seed.mutated l

theorem MutantsOf.investigated (h : MutantsOf seed option target jobs) {f : FinishedJob}
    (hf : f ∈ jobs) : f.investigated = some option := by
  obtain ⟨-, -, l, own, made⟩ := h f hf
  rw [FinishedJob.investigated, show f.job.configuration = seed.mutated l from made, ← own]
  rfl

theorem MutantsOf.eq_mutated (h : MutantsOf seed option target jobs) {f : FinishedJob}
    (hf : f ∈ jobs) {l : Level} (hl : f.configuration.get? option = some l) :
    l.option = option ∧ f.configuration = seed.mutated l := by
  obtain ⟨-, -, l', own, made⟩ := h f hf
  rw [made, Mutation.get?_mutated, if_pos own.symm] at hl
  exact Option.some.inj hl ▸ ⟨own, made⟩

/-- A reported pair is one of two of the jobs, and its main order is one between their levels. -/
theorem MutantsOf.ends (h : MutantsOf seed option target jobs) (checked : check s jobs = .ok vs)
    {v : Violation} (mem : v ∈ vs) {main : DerivedOrder} (hmain : v.main? = some main) :
    v.first ∈ jobs ∧ v.second ∈ jobs ∧ v.first.configuration.get? option = some main.left ∧
      v.second.configuration.get? option = some main.right ∧ main.left ≠ main.right := by
  obtain ⟨⟨first, second⟩, hpair, hcompare⟩ := (mem_check_iff checked v).mp mem
  obtain ⟨⟨hfirst, -⟩, ⟨hsecond, -⟩, -⟩ := mem_pairs hpair
  obtain ⟨option', d, a, b, r, hc, -, -, -, -, rfl⟩ :=
    (compare_eq_some_iff s first second v).mp hcompare
  obtain rfl : option = option' := by
    have investigated := hc.investigated
    rw [h.investigated hfirst] at investigated
    exact Option.some.inj investigated
  obtain rfl : d.derived r a b = main := Option.some.inj ((main?_report hc r).symm.trans hmain)
  exact ⟨hfirst, hsecond, hc.left, hc.right, hc.ne⟩

/-- **A declared soundness order between the levels of two of the jobs is reported,** as an order
of one step. -/
theorem MutantsOf.reported (h : MutantsOf seed option target jobs)
    (hd : s.dimension? option = some d) (shows : d.Shows orders) (ho : o ∈ d.declaredOrders)
    (sound : o.relation = .moreSound) (ne : o.left ≠ o.right)
    (hfirst : first ∈ jobs) (left : first.configuration.get? option = some o.left)
    (hsecond : second ∈ jobs) (right : second.configuration.get? option = some o.right)
    (checked : check s jobs = .ok vs) :
    ∃ v ∈ vs, v.first = first ∧ v.second = second ∧ v.main? = some ⟨o, true, false⟩ := by
  obtain ⟨own, made⟩ := h.eq_mutated hfirst left
  obtain ⟨own', made'⟩ := h.eq_mutated hsecond right
  obtain ⟨produced, onTarget, -⟩ := h first hfirst
  obtain ⟨produced', onTarget', -⟩ := h second hsecond
  have comparable : Comparable s first second option d o.left o.right := by
    refine ⟨by rw [h.investigated hfirst]; rfl, hd, left, right, ne, ?_⟩
    rw [made, made', seed.differing_mutated (own.trans own'.symm) ne, own]
  obtain ⟨reached, derived, -⟩ := shows.order?_declared ho
  obtain ⟨ka, kb⟩ := shows.knows_sides ho
  rw [sound] at reached derived
  have leading : d.leading? o.left o.right = some .moreSound := by
    rw [shows.leading_of_declared reached, if_pos (shows.reach_precise_of_declared reached)]
  have pair : (first, second) ∈ pairs jobs := by
    refine mem_pairs_of_partner ⟨hfirst, produced⟩ ⟨hsecond, produced'⟩ ?_
      ((isPartner_iff _ _).mpr ⟨onTarget.trans onTarget'.symm,
        .inr ((h.investigated hfirst).trans (h.investigated hsecond).symm)⟩)
    rintro rfl
    exact ne (Option.some.inj (left.symm.trans right))
  refine ⟨report first second option d o.left o.right .moreSound, ?_, rfl, rfl, ?_⟩
  · exact (mem_check_iff checked _).mpr ⟨_, pair, (compare_eq_some_iff s first second _).mpr
      ⟨option, d, o.left, o.right, .moreSound, comparable, ka, kb, leading, reached, rfl⟩⟩
  · rw [main?_report comparable, derived]

end Comparison

/-! ### Violations of chains -/

namespace Judge

open Comparison Dimension

variable {R : Type} [DecidableEq R]

/-- **A violation of several steps never stands alone.** Let finished jobs be mutants of one seed
that investigate one option of names, all on one target, and let a reported pair violate a
soundness order, in one step or in several. If a chain of declared orders leads from its left level
to its right one and each level of the chain has a job, then a violated pair is reported whose main
order is one of the chain and takes one step. Known results make no difference. -/
theorem exists_direct_violated {s : Space} {option : String} {cs : List Call} {tags : List String}
    {d : Dimension} (built : d = { (Dimension.enumeration option).after cs with tags })
    (dimension : s.dimension? option = some d)
    {seed : Configuration} {target : Target} {jobs : List FinishedJob}
    (mutants : MutantsOf seed option target jobs) {vs : List Violation}
    (checked : check s jobs = .ok vs) (judge : Judge R) {v : Violation} (mem : v ∈ vs)
    (violated : judge.violated v = true) {main : DerivedOrder} (hmain : v.main? = some main)
    (sound : main.relation = .moreSound) {path : List Order}
    (chain : d.Chain .moreSound main.left path main.right)
    (held : ∀ o ∈ path, ∀ side ∈ [o.left, o.right],
      ∃ f ∈ jobs, f.configuration.get? option = some side) :
    ∃ v' ∈ vs, judge.violated v' = true ∧ v'.isTransitive = false ∧
      ∃ direct, v'.main? = some direct ∧ direct.toOrder ∈ path := by
  have shows : d.Shows ((Dimension.enumeration option).declarations cs) :=
    (shows_after (.enumeration option) cs).of_graphs (by rw [built]) (by rw [built])
  obtain ⟨hfirst, hsecond, first, second, apart⟩ := mutants.ends checked mem hmain
  have relation {v : Violation} {o : DerivedOrder} (h : v.main? = some o)
      (ho : o.relation = .moreSound) : v.relation? = some .moreSound := by
    rw [Violation.relation?, h, Option.map_some, ho]
  obtain ⟨x, ⟨there, missing⟩, counts⟩ :=
    (violated_iff_exists judge (relation hmain sound)).mp violated
  -- along the chain a level has a job without the result, until one has a job with it
  obtain ⟨o, ho, declared, hr, ne, ⟨f, hf, left, lacks⟩, f', hf', right, has⟩ :=
    chain.exists_link
      (fun l => ∃ f ∈ jobs, f.configuration.get? option = some l ∧ x ∉ judge.resultsOf f)
      (fun l => ∃ f ∈ jobs, f.configuration.get? option = some l ∧ x ∈ judge.resultsOf f)
      apart ⟨v.first, hfirst, first, missing⟩ ⟨v.second, hsecond, second, there⟩
      fun o ho => by
        obtain ⟨f, hf, hl⟩ := held o ho o.right (by simp)
        by_cases has : x ∈ judge.resultsOf f
        · exact .inr ⟨f, hf, hl, has⟩
        · exact .inl ⟨f, hf, hl, has⟩
  obtain ⟨v', mem', rfl, rfl, direct⟩ :=
    mutants.reported dimension shows declared hr ne hf left hf' right checked
  have same : v'.target = v.target :=
    (mutants _ hf).2.1.trans (mutants _ hfirst).2.1.symm
  refine ⟨v', mem', ?_, ?_, _, direct, ho⟩
  · exact (violated_iff_exists judge (relation direct hr)).mpr ⟨x, ⟨has, lacks⟩, same ▸ counts⟩
  · rw [Violation.isTransitive, direct]
    rfl

/-- Registers three levels and declares each to be more sound than the next. -/
def ladderCalls : List Call :=
  ["A", "B", "C"].map .register ++
    [.declare .moreSound ⟨"k", "A"⟩ ⟨"k", "B"⟩, .declare .moreSound ⟨"k", "B"⟩ ⟨"k", "C"⟩]

def ladder : Dimension := (Dimension.enumeration "k").after ladderCalls

/-- The pair that two levels of the ladder make. -/
def ladderPair (x y : String) (transitive : Bool) : Violation :=
  ⟨jobAt x, jobAt y, "k",
    [orderAt x .moreSound y true transitive, orderAt y .morePrecise x false transitive]⟩

/-- What is found at each level, of which all is true. The last level finds what the others do
not. -/
def ladderJudge : Judge String :=
  ⟨fun level => if level = "C" then ["e1", "e2"] else ["e1"], some ⟨[(⟨"p"⟩, ["e1", "e2"])]⟩⟩

theorem exists_direct_violated_ladder :
    ladderJudge.violated (ladderPair "A" "C" true) = true ∧
      ∃ v ∈ [ladderPair "A" "B" false, ladderPair "A" "C" true, ladderPair "B" "C" false],
        ladderJudge.violated v = true ∧ v.isTransitive = false := by
  have checked : check (spaceOf ladder) [jobAt "A", jobAt "B", jobAt "C"] =
      .ok [ladderPair "A" "B" false, ladderPair "A" "C" true, ladderPair "B" "C" false] := by
    decide +kernel
  have mutants : MutantsOf ⟨Table.empty.insert "k" ⟨"k", "A"⟩, none⟩ "k" ⟨"p"⟩
      [jobAt "A", jobAt "B", jobAt "C"] := by
    intro f hf
    simp only [List.mem_cons, List.not_mem_nil, or_false] at hf
    rcases hf with rfl | rfl | rfl
    · exact ⟨rfl, rfl, ⟨"k", "A"⟩, rfl, by decide +kernel⟩
    · exact ⟨rfl, rfl, ⟨"k", "B"⟩, rfl, by decide +kernel⟩
    · exact ⟨rfl, rfl, ⟨"k", "C"⟩, rfl, by decide +kernel⟩
  have violated : ladderJudge.violated (ladderPair "A" "C" true) = true := by decide +kernel
  have shows := shows_after (.enumeration "k") ladderCalls
  have declared (x y : String)
      (h : Stated ((Dimension.enumeration "k").declarations ladderCalls) .moreSound x y) :
      (orderAt x .moreSound y true false).toOrder ∈ ladder.declaredOrders :=
    shows.mem_declaredOrders.mpr ⟨h, rfl, rfl, rfl⟩
  have chain : ladder.Chain .moreSound ⟨"k", "A"⟩ [(orderAt "A" .moreSound "B" true false).toOrder,
      (orderAt "B" .moreSound "C" true false).toOrder] ⟨"k", "C"⟩ :=
    .cons (declared "A" "B" ⟨_, List.mem_cons_self, rfl, rfl, rfl⟩) rfl
      (.cons (declared "B" "C" ⟨_, List.mem_cons_of_mem _ List.mem_cons_self, rfl, rfl, rfl⟩) rfl
        (.nil _))
  have built : ladder = { (Dimension.enumeration "k").after ladderCalls with tags := [] } := rfl
  have main : (ladderPair "A" "C" true).main? = some (orderAt "A" .moreSound "C" true true) := rfl
  obtain ⟨v, mem, found, direct, -⟩ := exists_direct_violated built (by decide +kernel) mutants
    checked ladderJudge (by simp) violated main rfl chain (by decide +kernel)
  exact ⟨violated, v, mem, found, direct⟩

end Judge
end OrderTrials
