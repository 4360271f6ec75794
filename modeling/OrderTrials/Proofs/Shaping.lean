import OrderTrials.Proofs.Chaining
/-
# One shape for all integers

A free integer, one that no declaration names, has no node of its own. Where two of them stand
beside each other depends on which is the smaller one, if either is (`Dimension.places_of_free`). So
a dimension answers questions about any two of them as about any other two that compare alike: what
is declared between the placeholders is declared of the whole range (`Dimension.free_alike`).

Key definitions: `Dimension.Free`, `Dimension.Alike`, `DerivedOrder.marks`.
Key theorems: `Dimension.places_of_free`, `Dimension.anchors_swap_iff`, `Dimension.free_alike`.
-/

namespace OrderTrials

/-- What an order says of its evidence: whether it is explicit, and whether it is transitive. -/
def DerivedOrder.marks (o : DerivedOrder) : Bool × Bool := (o.explicit, o.transitive)

namespace Dimension

variable {d : Dimension} {a b a' b' l : Level} {x y x' y' : Int}

/-- The level is an integer of the dimension, and no declaration names it. -/
def Free (d : Dimension) (l : Level) (x : Int) : Prop := l.option = d.name ∧ d.Floats l x

/-- Two integers compare as two others do. -/
def Alike (x y x' y' : Int) : Prop := (x < y ↔ x' < y') ∧ (y < x ↔ y' < x')

theorem Free.knows (h : d.Free l x) : d.Knows l :=
  ⟨h.1, .inr (.inl (Option.isSome_iff_exists.mpr ⟨x, h.2.2⟩))⟩

/-! ### Places of free integers -/

/-- **Two free integers stand at the placeholders.** -/
theorem places_of_free (ha : d.Free a x) (hb : d.Free b y) :
    d.places a b = (.ofNode (beside x y), .ofNode (beside y x)) := by
  have side (u v : Int) :
      (if u < v then Anchor.placeholder 1 else .placeholder 0) = .ofNode (beside u v) := by
    unfold beside
    split
    · rfl
    · rfl
  unfold places
  rw [ha.2.place, hb.2.place]
  exact congrArg₂ Prod.mk (side x y) (side y x)

theorem Alike.beside (h : Alike x y x' y') :
    beside x y = beside x' y' ∧ beside y x = beside y' x' := by
  unfold Dimension.beside
  simp only [h.1, h.2, and_self]

theorem Alike.places (h : Alike x y x' y') (ha : d.Free a x) (hb : d.Free b y)
    (ha' : d.Free a' x') (hb' : d.Free b' y') : d.places a b = d.places a' b' := by
  rw [places_of_free ha hb, places_of_free ha' hb', h.beside.1, h.beside.2]

/-- Two levels have places in the one order if and only if they have them in the other, and these
are the same two places. -/
theorem anchors_swap_iff (d : Dimension) (a b : Level) (p : Anchor × Anchor) :
    d.anchors b a = .ok p ↔ d.anchors a b = .ok p.swap := by
  rw [anchors_eq_ok_iff, anchors_eq_ok_iff, places_swap d a b]
  constructor
  · rintro ⟨kb, ka, rfl⟩
    exact ⟨ka, kb, Prod.swap_swap _⟩
  · rintro ⟨ka, kb, h⟩
    exact ⟨kb, ka, by rw [← h, Prod.swap_swap]⟩

/-! ### Answers -/

theorem reach_of_places (same : d.places a b = d.places a' b') (r : Relation) (induced : Bool) :
    d.reach r a b induced = d.reach r a' b' induced := by
  rw [reach, reach, same]

/-- The places of two levels say what evidence there is for an order between them. -/
theorem marks_of_places (same : d.places a b = d.places a' b') (r : Relation) :
    (d.derived r a b).marks = (d.derived r a' b').marks := by
  simp only [DerivedOrder.marks, derived, reach_of_places same, same]

/-- **One shape for all integers.** Take any dimension, with any levels registered and any orders
declared. Two of its free integers have an answer to every question, and the same one as any other
two that compare alike; so have the marks of the order between them. Of two different free integers
the larger one stands at `i` and the smaller one at `i-1`, which are two places. And for any two
levels at all, the places in one order are those in the other order exchanged, if there are any. -/
theorem free_alike (d : Dimension) :
    (∀ a b a' b' x y x' y', d.Free a x → d.Free b y → d.Free a' x' → d.Free b' y' →
      Alike x y x' y' → ∀ r,
        (∀ induced, ∃ answer,
          d.holds r a b induced = .ok answer ∧ d.holds r a' b' induced = .ok answer) ∧
        ∃ o o', d.order? r a b = .ok o ∧ d.order? r a' b' = .ok o' ∧
          o.map DerivedOrder.marks = o'.map DerivedOrder.marks) ∧
    (∀ a b x y, d.Free a x → d.Free b y → y < x →
      d.anchors a b = .ok (.ofNode Anchor.integerNode, .ofNode Anchor.smallerNode) ∧
      Anchor.ofNode Anchor.integerNode ≠ .ofNode Anchor.smallerNode) ∧
    ∀ a b p, d.anchors b a = .ok p ↔ d.anchors a b = .ok p.swap := by
  refine ⟨?_, ?_, d.anchors_swap_iff⟩
  · intro a b a' b' x y x' y' ha hb ha' hb' alike r
    have same := alike.places ha hb ha' hb'
    refine ⟨fun induced => ⟨_, holds_of_knows ha.knows hb.knows r induced, ?_⟩, _, _,
      order?_of_knows ha.knows hb.knows r, order?_of_knows ha'.knows hb'.knows r, ?_⟩
    · rw [holds_of_knows ha'.knows hb'.knows, reach_of_places same]
    · rw [reach_of_places same]
      split
      · exact congrArg some (marks_of_places same r)
      · rfl
  · intro a b x y ha hb less
    refine ⟨(anchors_eq_ok_iff d a b _).mpr ⟨ha.knows, hb.knows, ?_⟩, by decide⟩
    rw [places_of_free ha hb, beside, beside, if_neg (Int.lt_asymm less), if_pos less]

/-- The two ends of all words are ordered as 5 and 3 are, and two spellings of one integer as 5 and
itself. -/
theorem free_alike_ends :
    (upToTen.after shapeCalls).holds .morePrecise ⟨"k", "9223372036854775807"⟩
        ⟨"k", "-9223372036854775808"⟩ false = .ok true ∧
      (upToTen.after shapeCalls).anchors ⟨"k", "-9223372036854775808"⟩
        ⟨"k", "9223372036854775807"⟩ = .ok (.placeholder 1, .placeholder 0) ∧
      ∃ o, (upToTen.after shapeCalls).order? .morePrecise ⟨"k", "7"⟩ ⟨"k", "+07"⟩ = .ok o ∧
        o.map DerivedOrder.marks = some (true, false) := by
  obtain ⟨alike, apart, swap⟩ := free_alike (upToTen.after shapeCalls)
  have greatest : (upToTen.after shapeCalls).Free ⟨"k", "9223372036854775807"⟩ Text.maxWord :=
    ⟨rfl, by decide +kernel, by decide +kernel⟩
  have least : (upToTen.after shapeCalls).Free ⟨"k", "-9223372036854775808"⟩ Text.minWord :=
    ⟨rfl, by decide +kernel, by decide +kernel⟩
  have five : (upToTen.after shapeCalls).Free ⟨"k", "5"⟩ 5 :=
    ⟨rfl, by decide +kernel, by decide +kernel⟩
  have three : (upToTen.after shapeCalls).Free ⟨"k", "3"⟩ 3 :=
    ⟨rfl, by decide +kernel, by decide +kernel⟩
  have seven : (upToTen.after shapeCalls).Free ⟨"k", "7"⟩ 7 :=
    ⟨rfl, by decide +kernel, by decide +kernel⟩
  have zeroSeven : (upToTen.after shapeCalls).Free ⟨"k", "+07"⟩ 7 :=
    ⟨rfl, by decide +kernel, by decide +kernel⟩
  refine ⟨?_, ?_, ?_⟩
  · obtain ⟨answer, ends, inside⟩ :=
      (alike _ _ _ _ _ _ _ _ greatest least five three (by unfold Alike; decide)
        .morePrecise).1 false
    have up : (upToTen.after shapeCalls).holds .morePrecise ⟨"k", "5"⟩ ⟨"k", "3"⟩ false =
        .ok true := by decide +kernel
    rw [ends, ← inside, up]
  · exact (swap _ _ _).mpr (apart _ _ _ _ greatest least (by decide)).1
  · obtain ⟨-, o, o', here, there, same⟩ :=
      alike _ _ _ _ _ _ _ _ seven zeroSeven five five (by unfold Alike; decide) .morePrecise
    have marked : (upToTen.after shapeCalls).order? .morePrecise ⟨"k", "5"⟩ ⟨"k", "5"⟩ = .ok
        (some ⟨⟨⟨"k", "5"⟩, .morePrecise, ⟨"k", "5"⟩, "k"⟩, true, false⟩) := by decide +kernel
    refine ⟨o, here, ?_⟩
    rw [same, ← Except.ok.inj (marked.symm.trans there)]
    rfl

end Dimension
end OrderTrials
