import OrderTrials.Proofs.Comparing
/-
# What is reported, and what is not

A reported pair rests on declared orders: its main order reads from the level of the first job to
that of the second and follows from declared steps alone, and the other order holds backwards
(`Comparison.compare_sound`). The converse fails. Where two levels are at least as precise as
each other, the comparison reads a relation of soundness between them, and a declared relation of
precision is passed over unless soundness is declared as well. That is the only case
(`Comparison.compare_declared`).

Key definitions: `Dimension.Shadowed`.
Key theorems: `Comparison.compare_sound`, `Comparison.compare_declared`,
`Comparison.compare_mutual`.
-/

namespace OrderTrials

namespace Dimension

/-- A relation of precision from `a` to `b` goes unseen: `b` is at least as precise as `a`, and
`a` is not declared to be at least as sound as `b`. -/
def Shadowed (d : Dimension) (a b : Level) : Prop :=
  d.holds .morePrecise b a true = .ok true ∧ d.holds .moreSound a b false = .ok false

variable {d : Dimension} {a b : Level} {orders : List Order} {r : Relation}

theorem shadowed_iff (ka : d.Knows a) (kb : d.Knows b) :
    d.Shadowed a b ↔
      d.reach .morePrecise b a true = true ∧ d.reach .moreSound a b false = false := by
  rw [Shadowed, holds_of_knows kb ka, holds_of_knows ka kb, Except.ok.injEq, Except.ok.injEq]

/-- **Which relation a comparison reads** where one is declared. It is that of soundness, unless
the second level is less precise. -/
theorem Shows.leading_of_declared (h : d.Shows orders) (hr : d.reach r a b false = true) :
    d.leading? a b =
      if d.reach .morePrecise b a true then some .moreSound else some .morePrecise := by
  unfold leading?
  cases r with
  | moreSound => simp [h.reach_of_declared hr, h.reach_precise_of_declared hr]
  | morePrecise =>
    obtain ⟨forth, back⟩ := h.reach_sound_of_declared hr
    simp [forth, back, h.reach_of_declared hr]

/-- Where a relation is declared, the one that a comparison reads is declared too, unless it is
shadowed. -/
theorem Shows.leading_declared_iff (h : d.Shows orders) (hr : d.reach r a b false = true)
    (ka : d.Knows a) (kb : d.Knows b) :
    (∃ r', d.leading? a b = some r' ∧ d.reach r' a b false = true) ↔ ¬ d.Shadowed a b := by
  rw [h.leading_of_declared hr, shadowed_iff ka kb]
  by_cases back : d.reach .morePrecise b a true = true
  · simp [back]
  · cases r with
    | moreSound => exact absurd (h.reach_precise_of_declared hr) back
    | morePrecise => simp [back, hr]

end Dimension

namespace Comparison

variable {s : Space} {text : String} {first second : FinishedJob} {v : Violation}

/-- **What a reported pair says.** The two configurations differ in the option of the pair alone,
which is the one that the first job investigates, or else the second. The pair has an order of
each relation; the main one comes first and leads from the level of the first job to that of the
second, the other one leads back. Both hold, the main one by declared steps alone: on an option of
names these are a chain of orders of the artifact, of its own relation and not empty. -/
theorem compare_sound (accepted : Space.ofText text = .ok s)
    (totalFirst : s.Total first.configuration.assignment)
    (totalSecond : s.Total second.configuration.assignment)
    (reported : compare s first second = .ok (some v)) :
    v.first = first ∧ v.second = second ∧
      first.configuration.DifferOnlyAt second.configuration v.option ∧
      first.investigated.or second.investigated = some v.option ∧
      ∃ d a b main mirror, s.dimension? v.option = some d ∧
        first.configuration.get? v.option = some a ∧
        second.configuration.get? v.option = some b ∧
        v.orders = [main, mirror] ∧ v.main? = some main ∧ v.isExplicit = true ∧
        (main.left = a ∧ main.right = b) ∧ (mirror.left = b ∧ mirror.right = a) ∧
        mirror.relation = main.relation.other ∧
        (∀ o ∈ v.orders, d.holds o.relation o.left o.right true = .ok true) ∧
        ∃ artifact, Artifact.read? text = some artifact ∧
          ∃ e ∈ artifact.options, e.name = v.option ∧
            (e.isInteger = false →
              Relation.TransGen (Stated e.declared main.relation) a.name b.name) := by
  obtain ⟨option, d, a, b, r, hc, ka, kb, hl, he, rfl⟩ :=
    (compare_eq_some_iff s first second v).mp reported
  obtain ⟨artifact, hread, e, hmem, hname, shows, -, hint⟩ := s.exists_entry accepted hc.dimension
  have main := main?_report hc r
  obtain ⟨forward, backward⟩ := Dimension.reach_of_leading hl
  refine ⟨rfl, rfl, (Configuration.differing_eq_singleton_iff totalFirst totalSecond).mp
    hc.differing, hc.investigated, d, a, b, d.derived r a b, d.derived r.other b a, hc.dimension, hc.left,
    hc.right, rfl, main, ?_, ⟨rfl, rfl⟩, ⟨rfl, rfl⟩, rfl, ?_, artifact, hread, e, hmem, hname, ?_⟩
  · rw [Violation.isExplicit, main, Option.any_some]
    exact he
  · intro o ho
    have members : o = d.derived r a b ∨ o = d.derived r.other b a := by
      simpa [report] using ho
    rcases members with rfl | rfl
    · exact (Dimension.holds_eq_ok_iff d r a b true true).mpr ⟨ka, kb, forward.symm⟩
    · exact (Dimension.holds_eq_ok_iff d r.other b a true true).mpr ⟨kb, ka, backward.symm⟩
  · intro hnames
    have chain := shows.chain_of_reach (hint.trans hnames) he
    rcases Relation.reflTransGen_iff_eq_or_transGen.mp chain with equal | chain
    · exact absurd equal.symm (Dimension.name_ne ka kb hc.ne)
    · exact chain

/-! ### Three levels, each more precise than the next -/

/-- An option of three levels, of which two declared orders make a chain. -/
def stairs : OptionEntry :=
  ⟨"k", false, ["A", "B", "C"], none, none, some "A", [],
    [⟨.morePrecise, "A", "B"⟩, ⟨.morePrecise, "B", "C"⟩]⟩

/-- The text of an artifact with that option. -/
def stairsText : String :=
  "\x7b\"name\":\"t\",\"options\":[\x7b\"name\":\"k\",\"type\":\"enum\"," ++
    "\"levels\":[\"A\",\"B\",\"C\"],\"default\":\"A\",\"orders\":[" ++
    "\x7b\"order\":\"MPT\",\"left\":\"A\",\"right\":\"B\"\x7d," ++
    "\x7b\"order\":\"MPT\",\"left\":\"B\",\"right\":\"C\"\x7d]\x7d]\x7d"

/-- The space of a dimension alone. -/
def spaceOf (d : Dimension) : Space := ⟨"t", Table.empty.insert d.name d⟩

/-- The space that the text describes. -/
def stairsSpace : Space := spaceOf ((Dimension.enumeration "k").after stairs.calls)

theorem read_stairsText : Artifact.read? stairsText = some ⟨"t", [stairs]⟩ := by
  decide +kernel

theorem ofText_stairsText : Space.ofText stairsText = .ok stairsSpace :=
  (Space.ofText_eq_ok_iff _ _).mpr ⟨_, read_stairsText, rfl⟩

/-- A finished job with a level of the option, which it investigates. -/
def jobAt (level : String) : FinishedJob :=
  ⟨⟨⟨Table.empty.insert "k" ⟨"k", level⟩, some "k"⟩, ⟨"p"⟩⟩, 0, some level⟩

theorem total_jobAt {d : Dimension} (hd : d.name = "k") (level : String) :
    (spaceOf d).Total (jobAt level).configuration.assignment := by
  rw [spaceOf, hd]
  exact Space.total_single "t" "k" d ⟨"k", level⟩

theorem differ_jobAt {x y : String} (h : x ≠ y) :
    (jobAt x).configuration.DifferOnlyAt (jobAt y).configuration "k" :=
  Configuration.differOnlyAt_single (by simpa using h) _ _

/-- A derived order between two levels of the option. -/
def orderAt (x : String) (r : Relation) (y : String) (explicit transitive : Bool) : DerivedOrder :=
  ⟨⟨⟨"k", x⟩, r, ⟨"k", y⟩, "k"⟩, explicit, transitive⟩

/-- The pair that two levels of the chain make. -/
def stairsPair (x y : String) (transitive : Bool) : Violation :=
  ⟨jobAt x, jobAt y, "k",
    [orderAt x .morePrecise y true transitive, orderAt y .moreSound x false transitive]⟩

theorem compare_sound_stairs :
    compare stairsSpace (jobAt "A") (jobAt "C") = .ok (some (stairsPair "A" "C" true)) ∧
      (stairsPair "A" "C" true).isExplicit = true ∧
      Relation.TransGen (Stated stairs.declared .morePrecise) "A" "C" := by
  have total (level : String) : stairsSpace.Total (jobAt level).configuration.assignment :=
    total_jobAt rfl level
  have reported : compare stairsSpace (jobAt "A") (jobAt "C") =
      .ok (some (stairsPair "A" "C" true)) := by decide +kernel
  obtain ⟨-, -, -, -, d, a, b, main, mirror, -, ha, hb, -, hmain, explicit, -, -, -, -, artifact,
    hread, e, he, -, chain⟩ := compare_sound ofText_stairsText (total "A") (total "C") reported
  obtain rfl : artifact = ⟨"t", [stairs]⟩ := Option.some.inj (hread.symm.trans read_stairsText)
  obtain rfl : e = stairs := List.mem_singleton.mp he
  obtain rfl : (⟨"k", "A"⟩ : Level) = a := Option.some.inj ha
  obtain rfl : (⟨"k", "C"⟩ : Level) = b := Option.some.inj hb
  have precise : (stairsPair "A" "C" true).relation? = some main.relation := by
    rw [Violation.relation?, hmain]
    rfl
  obtain hr : .morePrecise = main.relation := Option.some.inj precise
  exact ⟨reported, explicit, hr ▸ chain rfl⟩

/-! ### Declared relations -/

section

variable {start : Dimension} {a b : Level}

/-- **Declared relations are reported unless they are shadowed.** Two jobs differ in an option
that the first one investigates, and a declared relation leads from the level of the first to that
of the second. If it is shadowed, nothing is reported; otherwise a pair is, and its main order is
explicit. -/
theorem compare_declared (fresh : start.Fresh) (cs : List Dimension.Call)
    (dimension : s.dimension? start.name = some (start.after cs))
    (totalFirst : s.Total first.configuration.assignment)
    (totalSecond : s.Total second.configuration.assignment)
    (differ : first.configuration.DifferOnlyAt second.configuration start.name)
    (left : first.configuration.get? start.name = some a)
    (right : second.configuration.get? start.name = some b)
    (investigated : first.investigated = some start.name)
    (declared : ∃ r o, (start.after cs).order? r a b = .ok (some o) ∧ o.explicit = true) :
    ((start.after cs).Shadowed a b → compare s first second = .ok none) ∧
      (¬ (start.after cs).Shadowed a b →
        ∃ v main, compare s first second = .ok (some v) ∧ v.main? = some main ∧
          main.explicit = true) := by
  obtain ⟨r, o, ho, explicit⟩ := declared
  have shows := Dimension.shows_after fresh cs
  obtain ⟨ka, kb, -⟩ := (Dimension.order?_eq_ok_iff _ r a b _).mp ho
  have hne : a ≠ b := by
    rintro rfl
    exact (differ start.name).mpr rfl (left.trans right.symm)
  have comparable : Comparable s first second start.name (start.after cs) a b :=
    ⟨by rw [investigated]; rfl, dimension, left, right, hne,
      (Configuration.differing_eq_singleton_iff totalFirst totalSecond).mpr differ⟩
  have leading := shows.leading_declared_iff (Dimension.reach_of_explicit ho explicit) ka kb
  rw [compare_of_comparable comparable ka kb, ← leading]
  constructor
  · intro shadowed
    have unread : ¬ ∃ r', (start.after cs).leading? a b = some r' ∧
        (start.after cs).reach r' a b false = true := fun h => leading.mp h shadowed
    rw [Option.filter_eq_none_iff.mpr fun r' hr' he => unread ⟨r', hr', he⟩]
    rfl
  · rintro ⟨r', hr', he⟩
    rw [hr', Option.filter_some, if_pos he]
    exact ⟨_, _, rfl, main?_report comparable r', he⟩

/-- Declares precision from the first name of each pair to the second. -/
def precisionCalls (pairs : List (String × String)) : List Dimension.Call :=
  pairs.map fun p => .declare .morePrecise ⟨"k", p.1⟩ ⟨"k", p.2⟩

/-- Three levels, of which each is more precise than the next and the first also sounder than the
last, which is therefore more precise than the first. -/
def circleCalls : List Dimension.Call :=
  ["A", "B", "C"].map .register ++ precisionCalls [("A", "B"), ("B", "C")] ++
    [.declare .moreSound ⟨"k", "A"⟩ ⟨"k", "C"⟩]

def circle : Dimension := (Dimension.enumeration "k").after circleCalls

theorem compare_declared_circle :
    compare (spaceOf circle) (jobAt "A") (jobAt "B") = .ok none ∧
      ∃ v main, compare (spaceOf circle) (jobAt "A") (jobAt "C") = .ok (some v) ∧
        v.main? = some main ∧ main.explicit = true := by
  have total (level : String) : (spaceOf circle).Total (jobAt level).configuration.assignment :=
    total_jobAt rfl level
  have fresh : (Dimension.enumeration "k").Fresh := .enumeration "k"
  constructor
  · have declared : circle.order? .morePrecise ⟨"k", "A"⟩ ⟨"k", "B"⟩ =
        .ok (some (orderAt "A" .morePrecise "B" true false)) := by decide +kernel
    have shadowed : circle.Shadowed ⟨"k", "A"⟩ ⟨"k", "B"⟩ := ⟨by decide +kernel, by decide +kernel⟩
    exact (compare_declared fresh circleCalls rfl (total "A") (total "B") (differ_jobAt (by decide)) rfl
      rfl rfl ⟨_, _, declared, rfl⟩).1 shadowed
  · have declared : circle.order? .moreSound ⟨"k", "A"⟩ ⟨"k", "C"⟩ =
        .ok (some (orderAt "A" .moreSound "C" true false)) := by decide +kernel
    have sound : circle.holds .moreSound ⟨"k", "A"⟩ ⟨"k", "C"⟩ false ≠ .ok false := by
      decide +kernel
    exact (compare_declared fresh circleCalls rfl (total "A") (total "C") (differ_jobAt (by decide)) rfl
      rfl rfl ⟨_, _, declared, rfl⟩).2 fun shadowed => sound shadowed.2

/-- Two levels, each declared to be at least as precise as the other. -/
def twins : Dimension :=
  (Dimension.enumeration "k").after
    (["A", "B"].map .register ++ precisionCalls [("A", "B"), ("B", "A")])

/-- **A declared relation that is not reported.** Two jobs differ in the one option of a space,
which both investigate, and the level of the first is declared to be at least as precise as that of
the second. They make no pair, because the second is declared to be so as well. -/
theorem compare_mutual :
    (spaceOf twins).dimension? "k" = some twins ∧
      (∀ level, (spaceOf twins).Total (jobAt level).configuration.assignment) ∧
      (jobAt "A").configuration.DifferOnlyAt (jobAt "B").configuration "k" ∧
      (jobAt "A").target = (jobAt "B").target ∧
      (jobAt "A").investigated = some "k" ∧
      twins.order? .morePrecise ⟨"k", "A"⟩ ⟨"k", "B"⟩ =
        .ok (some (orderAt "A" .morePrecise "B" true false)) ∧
      compare (spaceOf twins) (jobAt "A") (jobAt "B") = .ok none := by
  refine ⟨rfl, total_jobAt rfl, differ_jobAt (by decide), rfl, rfl, ?_, ?_⟩
  · decide +kernel
  · decide +kernel

end

end Comparison
end OrderTrials
