import OrderTrials.Space.Dimension
/-
# Where levels stand

A question about two levels is refused unless the dimension knows both of them. If it does, the
place of each depends on the nodes of the graphs and on the values of the two levels, and the
answer is one search in one graph. The place of two levels in the other order is the same with
its parts exchanged, because the smaller of two integers is the smaller one in either order.

Key definitions: `Dimension.Knows`, `Dimension.places`, `Dimension.reach`, `Dimension.derived`.
Key theorems: `bind_eq_ok_iff`, `invariant_of_foldlM`, `Dimension.anchors_eq_ok_iff`,
`Dimension.holds_eq_ok_iff`, `Dimension.order?_eq_ok_iff`, `Dimension.places_swap`.
-/

namespace OrderTrials

/-- Two computations in a row succeed if and only if the first does and then the second does. -/
theorem bind_eq_ok_iff {ε α β : Type} (x : Except ε α) (f : α → Except ε β) (v : β) :
    x >>= f = .ok v ↔ ∃ u, x = .ok u ∧ f u = .ok v := by
  cases x <;> simp [bind, Except.bind]

/-- **What each step keeps, a fold that succeeds keeps.** -/
theorem invariant_of_foldlM {ε α β : Type} {f : β → α → Except ε β} {p : β → Prop} {xs : List α}
    {b b' : β} (step : ∀ x ∈ xs, ∀ c c', p c → f c x = .ok c' → p c') (start : p b)
    (h : xs.foldlM f b = .ok b') : p b' := by
  induction xs generalizing b with
  | nil =>
    obtain rfl := Except.ok.inj h
    exact start
  | cons x xs ih =>
    rw [List.foldlM_cons] at h
    obtain ⟨next, first, h⟩ := (bind_eq_ok_iff _ _ _).mp h
    have later := step x List.mem_cons_self b next start first
    exact ih (fun y hy => step y (List.mem_cons_of_mem x hy)) later h

/-- One more item at the end of a list is kept unless it came before. -/
theorem eraseDups_snoc {α : Type} [DecidableEq α] (past : List α) (a : α) :
    (past ++ [a]).eraseDups =
      if past.eraseDups.contains a then past.eraseDups else past.eraseDups ++ [a] := by
  rw [List.eraseDups_append]
  by_cases found : a ∈ past
  · have gone : [a].removeAll past = [] := by simp [List.removeAll, found]
    rw [gone, if_pos (by simpa using found)]
    exact List.append_nil _
  · have stays : [a].removeAll past = [a] := by simp [List.removeAll, found]
    rw [stays, if_neg (by simpa using found)]
    rfl

/-- Whether a computation gives a value. -/
instance decidableEqOk {ε α : Type} [DecidableEq α] (x : Except ε α) (v : α) :
    Decidable (x = .ok v) :=
  match x with
  | .ok u => decidable_of_iff (u = v) ⟨congrArg Except.ok, Except.ok.inj⟩
  | .error _ => isFalse nofun

namespace Dimension

variable {d : Dimension} {a b l : Level}

/-- The value of a level, on a dimension of integers. -/
def integerValue? (d : Dimension) (l : Level) : Option Int := if d.isInteger then l.value? else none

/-- The dimension can answer questions about a level of its own: a node, a number on a dimension
of integers, or a registered level. -/
def Knows (d : Dimension) (l : Level) : Prop :=
  l.option = d.name ∧
    (d.isNode l.name = true ∨ (d.integerValue? l).isSome = true ∨ l.name ∈ d.levels)

/-- Where a known level stands by itself, with its value if that is what it stands for. -/
def place (d : Dimension) (l : Level) : Anchor × Option Int :=
  if d.isNode l.name then (.ofNode l.name, none)
  else match d.integerValue? l with
    | some value => (.placeholder 0, some value)
    | none => (.exact l.name, none)

/-- Where two known levels stand beside each other. -/
def places (d : Dimension) (a b : Level) : Anchor × Anchor :=
  match (d.place a).2, (d.place b).2 with
  | some x, some y =>
    (if x < y then .placeholder 1 else (d.place a).1,
      if y < x then .placeholder 1 else (d.place b).1)
  | _, _ => ((d.place a).1, (d.place b).1)

/-- Whether the place of `a` reaches that of `b`; without `induced`, by declared steps alone. -/
def reach (d : Dimension) (r : Relation) (a b : Level) (induced : Bool) : Bool :=
  (d.graph r).reaches (!induced) (d.places a b).1.node (d.places a b).2.node

/-- The order between two known levels of which the first reaches the second. -/
def derived (d : Dimension) (r : Relation) (a b : Level) : DerivedOrder where
  left := a
  relation := r
  right := b
  option := d.name
  explicit := d.reach r a b false
  transitive := (d.places a b).1 != (d.places a b).2 &&
    ((d.graph r).edge? (d.places a b).1.node (d.places a b).2.node).isNone

/-! ### Places -/

/-- The place of one level, without the steps that lead to it. -/
theorem anchor_eq (d : Dimension) (l : Level) :
    d.anchor l =
      if l.option = d.name then
        if d.isNode l.name = true ∨ (d.integerValue? l).isSome = true ∨ l.name ∈ d.levels then
          .ok (d.place l)
        else .error (.unregisteredLevel d.name l.name)
      else .error (.foreignLevel d.name l.option l.name) := by
  unfold anchor requireOwn place
  by_cases ho : l.option = d.name
  · rw [if_pos ho, if_pos ho]
    by_cases hn : d.isNode l.name = true
    · simp [hn, bind, Except.bind, pure, Except.pure]
    · have hv : (if d.isInteger = true then l.value? else none) = d.integerValue? l := rfl
      rw [hv]
      cases d.integerValue? l with
      | some v => simp [hn, bind, Except.bind, pure, Except.pure]
      | none =>
        by_cases hl : l.name ∈ d.levels
        · simp [hn, hl, bind, Except.bind, pure, Except.pure]
        · simp [hn, hl, bind, Except.bind, throw, throwThe, MonadExceptOf.throw]
  · rw [if_neg ho, if_neg ho]
    rfl

theorem anchor_eq_ok_iff (d : Dimension) (l : Level) (p : Anchor × Option Int) :
    d.anchor l = .ok p ↔ d.Knows l ∧ p = d.place l := by
  rw [anchor_eq, Knows]
  split
  · split
    · rename_i ho hk
      simp only [Except.ok.injEq, ho, hk, and_self, true_and]
      exact eq_comm
    · rename_i ho hk
      simp [hk]
  · rename_i ho
    simp [ho]

/-- **Two levels have places if and only if both are known.** -/
theorem anchors_eq_ok_iff (d : Dimension) (a b : Level) (p : Anchor × Anchor) :
    d.anchors a b = .ok p ↔ d.Knows a ∧ d.Knows b ∧ p = d.places a b := by
  unfold anchors
  simp only [bind_eq_ok_iff, anchor_eq_ok_iff]
  have last : ∀ q : Except SpaceError (Anchor × Anchor), q = .ok (d.places a b) →
      (q = .ok p ↔ p = d.places a b) := by
    rintro q rfl
    exact ⟨fun h => (Except.ok.inj h).symm, fun h => congrArg Except.ok h.symm⟩
  have placed : (match (d.place a).2, (d.place b).2 with
      | some x, some y =>
        pure (if x < y then .placeholder 1 else (d.place a).1,
          if y < x then .placeholder 1 else (d.place b).1)
      | _, _ => pure ((d.place a).1, (d.place b).1) : Except SpaceError (Anchor × Anchor)) =
      .ok (d.places a b) := by
    unfold places
    cases (d.place a).2 <;> cases (d.place b).2 <;> rfl
  constructor
  · rintro ⟨_, ⟨ha, rfl⟩, _, ⟨hb, rfl⟩, h⟩
    exact ⟨ha, hb, (last _ placed).mp h⟩
  · rintro ⟨ha, hb, h⟩
    exact ⟨_, ⟨ha, rfl⟩, _, ⟨hb, rfl⟩, (last _ placed).mpr h⟩

/-- The places of two levels in the other order are the same two places. -/
theorem places_swap (d : Dimension) (a b : Level) : d.places b a = (d.places a b).swap := by
  unfold places
  cases (d.place a).2 <;> cases (d.place b).2 <;> rfl

/-- Two levels that a dimension knows and that differ have different names. -/
theorem name_ne (ka : d.Knows a) (kb : d.Knows b) (h : a ≠ b) : a.name ≠ b.name := by
  intro hn
  obtain ⟨option, name⟩ := a
  obtain ⟨option', name'⟩ := b
  obtain rfl : option = option' := ka.1.trans kb.1.symm
  exact h (congrArg (Level.mk option) hn)

/-! ### Answers -/

/-- **A question is answered if and only if both levels are known.** -/
theorem holds_eq_ok_iff (d : Dimension) (r : Relation) (a b : Level) (induced v : Bool) :
    d.holds r a b induced = .ok v ↔ d.Knows a ∧ d.Knows b ∧ v = d.reach r a b induced := by
  unfold holds
  simp only [bind_eq_ok_iff, anchors_eq_ok_iff]
  constructor
  · rintro ⟨_, ⟨ha, hb, rfl⟩, h⟩
    exact ⟨ha, hb, (Except.ok.inj h).symm⟩
  · rintro ⟨ha, hb, rfl⟩
    exact ⟨_, ⟨ha, hb, rfl⟩, rfl⟩

theorem holds_of_knows (ha : d.Knows a) (hb : d.Knows b) (r : Relation) (induced : Bool) :
    d.holds r a b induced = .ok (d.reach r a b induced) :=
  (holds_eq_ok_iff d r a b induced _).mpr ⟨ha, hb, rfl⟩

/-- **An order between two known levels** is the derived one, if the first reaches the second. -/
theorem order?_eq_ok_iff (d : Dimension) (r : Relation) (a b : Level) (o : Option DerivedOrder) :
    d.order? r a b = .ok o ↔ d.Knows a ∧ d.Knows b ∧
      o = if d.reach r a b true then some (d.derived r a b) else none := by
  unfold order?
  simp only [bind_eq_ok_iff, anchors_eq_ok_iff]
  have last : (if d.reach r a b true then pure (some (d.derived r a b)) else pure none :
      Except SpaceError (Option DerivedOrder)) =
      .ok (if d.reach r a b true then some (d.derived r a b) else none) := by
    split <;> rfl
  constructor
  · rintro ⟨_, ⟨ha, hb, rfl⟩, h⟩
    exact ⟨ha, hb, (Except.ok.inj (last.symm.trans h)).symm⟩
  · rintro ⟨ha, hb, rfl⟩
    exact ⟨_, ⟨ha, hb, rfl⟩, last⟩

/-- An order is explicit if declared steps alone lead from the first place to the second. -/
theorem reach_of_explicit {r : Relation} {o : DerivedOrder} (h : d.order? r a b = .ok (some o))
    (explicit : o.explicit = true) : d.reach r a b false = true := by
  obtain ⟨-, -, ho⟩ := (order?_eq_ok_iff d r a b _).mp h
  split at ho
  · rwa [Option.some.inj ho] at explicit
  · exact absurd ho (by simp)

theorem order?_of_knows (ha : d.Knows a) (hb : d.Knows b) (r : Relation) :
    d.order? r a b = .ok (if d.reach r a b true then some (d.derived r a b) else none) :=
  (order?_eq_ok_iff d r a b _).mpr ⟨ha, hb, rfl⟩

end Dimension
end OrderTrials
