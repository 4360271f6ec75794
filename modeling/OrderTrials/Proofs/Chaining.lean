import OrderTrials.Proofs.Duality
/-
# Chains of relations between levels

In a graph, what leads from `a` to `b` and on from `b` to `c` leads from `a` to `c`. A level is no
node, however: an integer that no declaration names floats, and the level beside it decides at which
placeholder it stands. Beside a node it stands at `i`, and of two integers that float the smaller
one stands at `i-1`. So the three questions of a chain can be about different nodes, and the chain
composes in all cases but one (`Dimension.Shows.reach_trans`). Where `a` and `c` are two floating
integers on either side of a node (`Dimension.Astride`), both of them stand at `i` beside it, but
not beside each other; there the answer is that of the placeholders (`Dimension.holds_chained`).

Key definitions: `Linked`, `Dimension.Floats`, `Dimension.Astride`, `Dimension.beside`.
Key theorems: `Dimension.Shows.reach_trans`, `Dimension.holds_chained`,
`Dimension.unchained_of_loop`.
-/

namespace OrderTrials

variable {orders : List Order} {induced : Bool} {r : Relation}

/-- A chain of steps, possibly of none, leads from a named level to another. -/
def Linked (orders : List Order) (induced : Bool) (r : Relation) (m n : String) : Prop :=
  Named orders m ∧ Relation.ReflTransGen (Steps orders induced r) m n

theorem Linked.trans {l m n : String} (h : Linked orders induced r l m)
    (h' : Linked orders induced r m n) : Linked orders induced r l n :=
  ⟨h.1, h.2.trans h'.2⟩

/-- The far end of a chain is linked to itself. -/
theorem Linked.refl_target {m n : String} (h : Linked orders induced r m n) :
    Linked orders induced r n n :=
  ⟨named_of_chain h.1 h.2, .refl⟩

namespace Dimension

variable {d : Dimension} {a b c l : Level} {x y z : Int}

/-! ### Levels that float -/

/-- The level is an integer that no declaration names. -/
def Floats (d : Dimension) (l : Level) (x : Int) : Prop :=
  d.isNode l.name = false ∧ d.integerValue? l = some x

/-- The node at which a level stands, unless a floating integer is compared with another. -/
def home (d : Dimension) (l : Level) : String := (d.place l).1.node

/-- The placeholder at which one floating integer stands beside another. -/
def beside (x y : Int) : String :=
  if x < y then Anchor.smallerNode else Anchor.integerNode

theorem floats_iff : (d.place l).2 = some x ↔ d.Floats l x := by
  unfold place Floats
  cases d.isNode l.name <;> cases d.integerValue? l <;> simp

theorem Floats.place (h : d.Floats l x) : d.place l = (.placeholder 0, some x) := by
  unfold Dimension.place
  rw [h.1, h.2]
  rfl

theorem Floats.home (h : d.Floats l x) : d.home l = Anchor.integerNode := by
  rw [Dimension.home, h.place]
  rfl

/-- A level that does not float stands at its own name. -/
theorem home_of_fixed (fixed : (d.place l).2 = none) : d.home l = l.name := by
  unfold home
  unfold place at fixed ⊢
  split
  · exact Anchor.node_ofNode l.name
  · rename_i unnamed
    rw [if_neg unnamed] at fixed
    split at fixed
    · cases fixed
    · rfl

/-- If one of two levels does not float, each of them stands where it stands by itself. -/
theorem places_of_fixed (fixed : (d.place a).2 = none ∨ (d.place b).2 = none) :
    d.places a b = ((d.place a).1, (d.place b).1) := by
  unfold places
  rcases fixed with fixed | fixed
  · rw [fixed]
  · rw [fixed]
    cases (d.place a).2 <;> rfl

/-- Two integers that float stand at the placeholders. -/
theorem places_of_floats (ha : d.Floats a x) (hb : d.Floats b y) :
    (d.places a b).1.node = beside x y ∧ (d.places a b).2.node = beside y x := by
  unfold places beside
  rw [ha.place, hb.place]
  constructor
  · by_cases h : x < y
    · simp only [h, if_true]
      rfl
    · simp only [h, if_false]
      rfl
  · by_cases h : y < x
    · simp only [h, if_true]
      rfl
    · simp only [h, if_false]
      rfl

/-! ### What two levels reach -/

theorem Shows.reach_iff_home (h : d.Shows orders)
    (fixed : (d.place a).2 = none ∨ (d.place b).2 = none) :
    d.reach r a b induced = true ↔ Linked orders induced r (d.home a) (d.home b) := by
  rw [h.reach_iff, places_of_fixed fixed]
  rfl

theorem Shows.reach_iff_beside (h : d.Shows orders) (ha : d.Floats a x) (hb : d.Floats b y) :
    d.reach r a b induced = true ↔ Linked orders induced r (beside x y) (beside y x) := by
  obtain ⟨left, right⟩ := places_of_floats ha hb
  rw [h.reach_iff, left, right]
  rfl

/-- Three floating integers: whichever way the first and the last lie, one of the two links between
neighbours lies the same way, and equal integers share a placeholder that has been reached. -/
theorem linked_beside (first : Linked orders induced r (beside x y) (beside y x))
    (second : Linked orders induced r (beside y z) (beside z y)) :
    Linked orders induced r (beside x z) (beside z x) := by
  unfold beside at *
  rcases Int.lt_trichotomy x z with below | rfl | above
  · rw [if_pos below, if_neg (by omega)]
    by_cases h : x < y
    · rwa [if_pos h, if_neg (by omega)] at first
    · have h' : y < z := by omega
      rwa [if_pos h', if_neg (by omega)] at second
  · rw [if_neg (Int.lt_irrefl x)]
    by_cases h : x < y
    · rw [if_pos h, if_neg (by omega)] at first
      exact first.refl_target
    · rw [if_neg h] at second
      exact second.refl_target
  · rw [if_neg (by omega), if_pos above]
    by_cases h : y < x
    · rwa [if_neg (by omega), if_pos h] at first
    · have h' : z < y := by omega
      rwa [if_neg (by omega), if_pos h'] at second

/-! ### Chains -/

/-- Two different integers that float, on either side of a level that a declaration names. -/
def Astride (d : Dimension) (a b c : Level) (x z : Int) : Prop :=
  d.isNode b.name = true ∧ d.Floats a x ∧ d.Floats c z ∧ x ≠ z

/-- **What levels reach composes,** unless it leads from one floating integer past a node to
another. -/
theorem Shows.reach_trans (h : d.Shows orders) (first : d.reach r a b induced = true)
    (second : d.reach r b c induced = true) (unsplit : ¬ ∃ x z, d.Astride a b c x z) :
    d.reach r a c induced = true := by
  cases hb : (d.place b).2 with
  | none =>
    -- `b` stands at its own name in both questions, and that name is a node.
    rw [h.reach_iff_home (.inr hb)] at first
    rw [h.reach_iff_home (.inl hb)] at second
    have link := first.trans second
    cases ha : (d.place a).2 with
    | none => exact (h.reach_iff_home (.inl ha)).mpr link
    | some x =>
      cases hc : (d.place c).2 with
      | none => exact (h.reach_iff_home (.inr hc)).mpr link
      | some z =>
        rw [floats_iff] at ha hc
        have node : d.isNode b.name = true := by
          rw [h.isNode, ← home_of_fixed hb]
          exact second.1
        obtain rfl : x = z :=
          Decidable.byContradiction fun apart => unsplit ⟨x, z, node, ha, hc, apart⟩
        rw [ha.home, hc.home] at link
        rw [h.reach_iff_beside ha hc, beside, if_neg (Int.lt_irrefl x)]
        exact link
  | some y =>
    -- `b` floats, so beside a node it stands at `i`, which is the home of the other integers too.
    have floats := floats_iff.mp hb
    cases ha : (d.place a).2 with
    | none =>
      rw [h.reach_iff_home (.inl ha)] at first ⊢
      cases hc : (d.place c).2 with
      | none =>
        rw [h.reach_iff_home (.inr hc)] at second
        exact first.trans second
      | some z =>
        rwa [(floats_iff.mp hc).home, ← floats.home]
    | some x =>
      cases hc : (d.place c).2 with
      | none =>
        rw [h.reach_iff_home (.inr hc)] at second ⊢
        rwa [(floats_iff.mp ha).home, ← floats.home]
      | some z =>
        rw [floats_iff] at ha hc
        rw [h.reach_iff_beside ha floats] at first
        rw [h.reach_iff_beside floats hc] at second
        rw [h.reach_iff_beside ha hc]
        exact linked_beside first second

/-- **Chains of answers.** After any history, with or without what declarations induce: if `a`
stands in a relation to `b`, and `b` to `c`, then `a` stands in it to `c`, unless `a` and `c` are two
different integers that no declaration names and `b` is a level that one names. In that case `a`
stands in the relation to `c` if and only if the placeholder of the one stands in it to that of the
other. -/
theorem holds_chained {start : Dimension} (fresh : start.Fresh) (cs : List Call) (r : Relation)
    (induced : Bool) (a b c : Level)
    (first : (start.after cs).holds r a b induced = .ok true)
    (second : (start.after cs).holds r b c induced = .ok true) :
    ((¬ ∃ x z, (start.after cs).Astride a b c x z) →
      (start.after cs).holds r a c induced = .ok true) ∧
    (∀ x z, (start.after cs).Astride a b c x z →
      ((start.after cs).holds r a c induced = .ok true ↔
        Linked (start.declarations cs) induced r (beside x z) (beside z x))) := by
  have shows := shows_after fresh cs
  obtain ⟨ka, kb, ab⟩ := (holds_eq_ok_iff _ r a b induced _).mp first
  obtain ⟨-, kc, bc⟩ := (holds_eq_ok_iff _ r b c induced _).mp second
  rw [holds_of_knows ka kc, Except.ok.injEq]
  constructor
  · intro unsplit
    exact shows.reach_trans ab.symm bc.symm unsplit
  · rintro x z ⟨-, ha, hc, -⟩
    exact shows.reach_iff_beside ha hc

/-- Declares that the integer 5 is as sound as the placeholder for an integer. -/
def loopCalls : List Call :=
  ["i", "5", "i-1"].map .register ++
    [.declare .moreSound ⟨"k", "i"⟩ ⟨"k", "5"⟩, .declare .moreSound ⟨"k", "5"⟩ ⟨"k", "i"⟩]

/-- Declares the same, and the soundness of the range. -/
def rangeCalls : List Call := loopCalls ++ [.declare .moreSound ⟨"k", "i"⟩ ⟨"k", "i-1"⟩]

theorem holds_chained_range :
    (upToTen.after rangeCalls).holds .moreSound ⟨"k", "i"⟩ ⟨"k", "7"⟩ false = .ok true ∧
      (upToTen.after rangeCalls).holds .moreSound ⟨"k", "7"⟩ ⟨"k", "3"⟩ false = .ok true := by
  have fresh : upToTen.Fresh := .integer (show integer "k" 0 10 = .ok upToTen from rfl)
  have up : (upToTen.after rangeCalls).holds .moreSound ⟨"k", "i"⟩ ⟨"k", "5"⟩ false = .ok true := by
    decide +kernel
  have here : (upToTen.after rangeCalls).holds .moreSound ⟨"k", "7"⟩ ⟨"k", "5"⟩ false = .ok true := by
    decide +kernel
  have down (name : String) (h : name = "7" ∨ name = "3") :
      (upToTen.after rangeCalls).holds .moreSound ⟨"k", "5"⟩ ⟨"k", name⟩ false = .ok true := by
    rcases h with rfl | rfl <;> decide +kernel
  constructor
  · refine (holds_chained fresh rangeCalls _ _ _ _ _ up (down "7" (.inl rfl))).1 ?_
    rintro ⟨x, z, -, ⟨unnamed, -⟩, -⟩
    have named : (upToTen.after rangeCalls).isNode "i" = true := by decide +kernel
    rw [named] at unnamed
    cases unnamed
  · have astride : (upToTen.after rangeCalls).Astride ⟨"k", "7"⟩ ⟨"k", "5"⟩ ⟨"k", "3"⟩ 7 3 :=
      ⟨by decide +kernel, ⟨by decide +kernel, by decide +kernel⟩,
        ⟨by decide +kernel, by decide +kernel⟩, by decide⟩
    refine ((holds_chained fresh rangeCalls _ _ _ _ _ here (down "3" (.inr rfl))).2 7 3 astride).mpr ?_
    have declared : ⟨⟨"k", "i"⟩, .moreSound, ⟨"k", "i-1"⟩, "k"⟩ ∈ upToTen.declarations rangeCalls := by
      decide +kernel
    exact ⟨⟨_, declared, .inl rfl⟩, .single (.inl ⟨_, declared, rfl, rfl, rfl⟩)⟩

/-- **A chain that does not compose.** Beside 5, which is a node, both 7 and 3 stand at `i`, so that 7
is at least as sound as 5 and 5 at least as sound as 3. Beside 7, however, 3 stands at `i-1`, of
which nothing is declared. -/
theorem unchained_of_loop :
    integer "k" 0 10 = .ok upToTen ∧
      (∀ induced, (upToTen.after loopCalls).holds .moreSound ⟨"k", "7"⟩ ⟨"k", "5"⟩ induced =
        .ok true) ∧
      (∀ induced, (upToTen.after loopCalls).holds .moreSound ⟨"k", "5"⟩ ⟨"k", "3"⟩ induced =
        .ok true) ∧
      ∀ induced, (upToTen.after loopCalls).holds .moreSound ⟨"k", "7"⟩ ⟨"k", "3"⟩ induced =
        .ok false := by
  refine ⟨rfl, ?_, ?_, ?_⟩ <;> decide +kernel

end Dimension
end OrderTrials
