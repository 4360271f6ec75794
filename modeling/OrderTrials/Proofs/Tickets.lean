import Mathlib.Data.List.Count
import Mathlib.Data.List.GetD
import OrderTrials.Proofs.Weighing
/-
# Tickets

A draw from a pool lays the weights that are left end to end and looks on which of them a ticket
falls. All the tickets below the total, one after the other, fall on each position as often as its
weight says (`Pool.map_pick_range`), so a ticket is fair if it is a fair number. A draw takes one off
the weight on which its ticket fell, and so the weights that are left are the weights of the pool
less what was drawn before, and their sum goes down by one with each draw (`Pool.Drawn`). A source
of tickets is therefore asked for numbers below the sum of all weights, then below one less, and so
on, until the amount is reached or nothing is left (`Pool.positions_falls`). Room for the amount is
made before the first ticket, and of more than there can be room for nothing is drawn
(`Pool.draw_beyond`).

Key definitions: `Pool.Reachable`, `Pool.weights`, `Pool.copies`, `Pool.remaining`, `Pool.tickets`,
`Pool.falls`, `Pool.Drawn`.
Key theorems: `Pool.map_pick_range`, `Pool.Drawn.snoc`, `Pool.positions_falls`,
`Pool.draw_without_replacement`.
-/

namespace OrderTrials
namespace Pool

universe u v

/-! ### Where tickets fall -/

variable {ws : List Nat} {t k : Nat}

/-- Each position as often as its weight says, in order. -/
def copies : List Nat → List Nat
  | [] => []
  | w :: r => List.replicate w 0 ++ (copies r).map (· + 1)

/-- **All tickets in turn** fall on each position as often as its weight says. -/
theorem map_pick_range (ws : List Nat) :
    (List.range (total ws)).map (pick ws) = copies ws := by
  induction ws with
  | nil => rfl
  | cons w r ih =>
    have first : (List.range w).map (pick (w :: r)) = List.replicate w 0 := by
      refine List.eq_replicate_iff.mpr ⟨by simp, fun k hk => ?_⟩
      obtain ⟨t, ht, rfl⟩ := List.mem_map.mp hk
      rw [pick, if_pos (List.mem_range.mp ht)]
    have later : pick (w :: r) ∘ (w + ·) = (· + 1) ∘ pick r := by
      funext t
      rw [Function.comp_apply, pick, if_neg (by omega), Nat.add_sub_cancel_left]
      rfl
    rw [total, List.range_add, List.map_append, first, List.map_map, later, ← List.map_map, ih,
      copies]

theorem count_copies (ws : List Nat) (k : Nat) :
    (copies ws).count k = ws.getD k 0 := by
  induction ws generalizing k with
  | nil => rfl
  | cons w r ih =>
    rw [copies, List.count_append, List.count_replicate]
    cases k with
    | zero =>
      have absent : ((copies r).map (· + 1)).count 0 = 0 := by
        rw [List.count_eq_zero, List.mem_map]
        rintro ⟨k, -, h⟩
        cases h
      simp [absent]
    | succ k =>
      rw [List.count_map_of_injective _ _ (fun _ _ => Nat.succ.inj), ih]
      simp

/-- Of all tickets, as many fall on a position as its weight says. -/
theorem countP_pick (ws : List Nat) (k : Nat) :
    (List.range (total ws)).countP (fun t => pick ws t == k) = ws.getD k 0 := by
  rw [← count_copies, ← map_pick_range, List.count, List.countP_map]
  rfl

/-- A ticket below the total falls on a position that has some weight. -/
theorem getD_pick_pos (h : t < total ws) : 0 < ws.getD (pick ws t) 0 := by
  rw [← countP_pick, List.countP_pos_iff]
  exact ⟨t, List.mem_range.mpr h, beq_self_eq_true _⟩

theorem lt_length_of_getD_pos (h : 0 < ws.getD k 0) : k < ws.length := by
  refine Decidable.byContradiction fun beyond => ?_
  rw [List.getD_eq_default _ _ (Nat.not_lt.mp beyond)] at h
  exact Nat.lt_irrefl 0 h

/-! ### What is left -/

variable {past : List Nat}

/-- The weights less the number of times that each position was drawn. -/
def remaining (ws past : List Nat) : List Nat :=
  ws.mapIdx fun k w => w - past.count k

@[simp]
theorem remaining_nil (ws : List Nat) : remaining ws [] = ws := by
  refine List.ext_getElem? fun k => ?_
  rw [remaining, List.getElem?_mapIdx]
  cases ws[k]? <;> rfl

theorem getD_remaining (ws past : List Nat) (k : Nat) :
    (remaining ws past).getD k 0 = ws.getD k 0 - past.count k := by
  rw [remaining, List.getD_eq_getElem?_getD, List.getD_eq_getElem?_getD, List.getElem?_mapIdx]
  cases ws[k]? with
  | none => exact (Nat.zero_sub _).symm
  | some w => rfl

theorem getElem?_takeOne (ws : List Nat) (k i : Nat) :
    (takeOne ws k)[i]? = if i = k then ws[i]?.map (· - 1) else ws[i]? := by
  induction ws generalizing k i with
  | nil => simp [takeOne]
  | cons w r ih =>
    cases k with
    | zero => cases i <;> simp [takeOne]
    | succ k =>
      cases i with
      | zero => simp [takeOne]
      | succ i => simp [takeOne, ih]

/-- One more draw takes one off what is left. -/
theorem takeOne_remaining (ws past : List Nat) (k : Nat) :
    takeOne (remaining ws past) k = remaining ws (past ++ [k]) := by
  refine List.ext_getElem? fun i => ?_
  rw [getElem?_takeOne, remaining, remaining, List.getElem?_mapIdx, List.getElem?_mapIdx,
    List.count_append, List.count_singleton]
  by_cases same : i = k
  · subst same
    simp [Nat.sub_sub, Function.comp_def]
  · have other : (k == i) = false := beq_eq_false_iff_ne.mpr (Ne.symm same)
    simp [same, other]

/-- Where there is some weight, taking one off lowers the total by one. -/
theorem total_takeOne (h : 0 < ws.getD k 0) :
    total (takeOne ws k) + 1 = total ws := by
  induction ws generalizing k with
  | nil => cases h
  | cons w r ih =>
    cases k with
    | zero =>
      rw [List.getD_cons_zero] at h
      rw [takeOne, total, total]
      omega
    | succ k =>
      rw [List.getD_cons_succ] at h
      have := ih h
      rw [takeOne, total, total]
      omega

/-- A position was drawn as often as its weight at most, and the sum of what is left is the sum of
the weights less the number of draws. -/
structure Drawn (ws past : List Nat) : Prop where
  within : ∀ k, past.count k ≤ ws.getD k 0
  balanced : total (remaining ws past) + past.length = total ws

theorem drawn_nil (ws : List Nat) : Drawn ws [] :=
  ⟨fun _ => Nat.zero_le _, by rw [remaining_nil]; rfl⟩

/-- **One draw.** -/
theorem Drawn.snoc (h : Drawn ws past) (ht : t < total (remaining ws past)) :
    Drawn ws (past ++ [pick (remaining ws past) t]) := by
  have left := getD_pick_pos ht
  generalize pick (remaining ws past) t = k at left
  have sum := total_takeOne left
  have balanced := h.balanced
  rw [getD_remaining] at left
  refine ⟨fun i => ?_, ?_⟩
  · have := h.within i
    rw [List.count_append, List.count_singleton]
    by_cases same : k = i
    · subst same
      rw [beq_self_eq_true, if_pos rfl]
      omega
    · rw [beq_eq_false_iff_ne.mpr same, if_neg Bool.false_ne_true]
      omega
  · rw [takeOne_remaining] at sum
    rw [List.length_append, List.length_singleton]
    omega

/-! ### Draws in turn -/

variable {σ : Type v}

/-- Tickets that are asked for in turn, each below a bound that is one less than the one before. -/
def tickets (ticket : Nat → σ → Nat × σ) : Nat → Nat → σ → List Nat × σ
  | 0, _, s => ([], s)
  | n + 1, bound, s =>
    let (t, s) := ticket bound s
    let (ts, s) := tickets ticket n (bound - 1) s
    (t :: ts, s)

/-- The positions on which tickets fall in turn, each among what is left by the draws before it. -/
def falls (ws : List Nat) : List Nat → List Nat → List Nat
  | _, [] => []
  | past, t :: ts =>
    let k := pick (remaining ws past) t
    k :: falls ws (past ++ [k]) ts

/-- Each ticket is below what a bound has come down to. -/
def Below : Nat → List Nat → Prop
  | _, [] => True
  | bound, t :: ts => t < bound ∧ Below (bound - 1) ts

theorem below_iff (bound : Nat) (ts : List Nat) :
    Below bound ts ↔ ∀ j t, ts[j]? = some t → t < bound - j := by
  induction ts generalizing bound with
  | nil => simp [Below]
  | cons u ts ih =>
    rw [Below, ih]
    constructor
    · rintro ⟨first, later⟩ j t ht
      cases j with
      | zero =>
        obtain rfl : u = t := by simpa using ht
        exact first
      | succ j =>
        have := later j t (by simpa using ht)
        omega
    · intro each
      refine ⟨by simpa using each 0 u rfl, fun j t ht => ?_⟩
      have := each (j + 1) t (by simpa using ht)
      omega

theorem length_tickets (ticket : Nat → σ → Nat × σ) (n bound : Nat) (s : σ) :
    (tickets ticket n bound s).1.length = n := by
  induction n generalizing bound s with
  | zero => rfl
  | succ n ih => rw [tickets, List.length_cons, ih]

theorem length_falls (ws past ts : List Nat) : (falls ws past ts).length = ts.length := by
  induction ts generalizing past with
  | nil => rfl
  | cons t ts ih => rw [falls, List.length_cons, ih, List.length_cons]

/-- Tickets that are below what the source is asked for are below what is left. -/
theorem below_tickets {ticket : Nat → σ → Nat × σ}
    (keeps : ∀ n s, 0 < n → (ticket n s).1 < n) {n bound : Nat} (h : n ≤ bound) (s : σ) :
    Below bound (tickets ticket n bound s).1 := by
  induction n generalizing bound s with
  | zero => trivial
  | succ n ih => exact ⟨keeps bound s (by omega), ih (by omega) _⟩

/-- Each ticket falls among what the draws before it have left. -/
theorem getElem?_falls (ws past ts : List Nat) (j : Nat) :
    (falls ws past ts)[j]? = ts[j]?.map
      (pick (remaining ws (past ++ (falls ws past ts).take j))) := by
  induction ts generalizing past j with
  | nil => rfl
  | cons t ts ih =>
    rw [falls]
    cases j with
    | zero => simp
    | succ j =>
      rw [List.getElem?_cons_succ, List.getElem?_cons_succ, ih, List.take_succ_cons,
        List.append_assoc]
      rfl

/-- **All draws,** whatever their number. -/
theorem Drawn.falls (h : Drawn ws past) {ts : List Nat}
    (below : Below (total (remaining ws past)) ts) (j : Nat) :
    Drawn ws (past ++ (falls ws past ts).take j) := by
  induction ts generalizing past j with
  | nil =>
    rw [Pool.falls, List.take_nil, List.append_nil]
    exact h
  | cons t ts ih =>
    obtain ⟨first, later⟩ := below
    have next := h.snoc first
    have sum := total_takeOne (getD_pick_pos first)
    rw [takeOne_remaining] at sum
    rw [Pool.falls]
    cases j with
    | zero =>
      rw [List.take_zero, List.append_nil]
      exact h
    | succ j =>
      have rest := ih next (by rwa [← sum, Nat.add_sub_cancel] at later) j
      rwa [List.append_assoc] at rest

/-- **What is drawn and asked for.** Positions are drawn with as many tickets as the amount, or as
there is weight left, each of them below the sum of what is left. -/
theorem positions_falls (ticket : Nat → σ → Nat × σ) (amount : Nat) (s : σ) {n : Nat}
    {asked : List Nat × σ} (hn : n = total (remaining ws past))
    (hasked : asked = tickets ticket (min amount n) n s) (below : Below n asked.1) :
    positions ticket amount (remaining ws past) past.eraseDups s =
      ((past ++ falls ws past asked.1).eraseDups, asked.2) := by
  induction amount generalizing past s n asked with
  | zero =>
    rw [Nat.zero_min] at hasked
    rw [hasked, positions, tickets, falls, List.append_nil]
  | succ amount ih =>
    rw [positions, ← hn]
    cases n with
    | zero =>
      rw [Nat.min_zero] at hasked
      rw [hasked, if_pos rfl, tickets, falls, List.append_nil]
    | succ n =>
      rw [Nat.succ_min_succ, tickets, Nat.add_sub_cancel] at hasked
      dsimp only at hasked
      subst hasked
      obtain ⟨first, later⟩ := below
      rw [Nat.add_sub_cancel] at later
      have sum := total_takeOne (getD_pick_pos (hn ▸ first))
      rw [if_neg (Nat.succ_ne_zero n), falls]
      dsimp only
      rw [← eraseDups_snoc, takeOne_remaining]
      rw [takeOne_remaining, ← hn] at sum
      rw [ih _ (Nat.succ.inj sum).symm rfl later, List.append_assoc]
      rfl

/-! ### Draws from a pool -/

variable {α : Type u} {p : Pool α}

/-- The weights of the items in the order in which these came. -/
def weights (p : Pool α) : List Nat := p.entries.map (·.2)

/-- The tickets of a draw: as many as the amount or as the weights allow, each below the sum of what
is left. -/
def asked (p : Pool α) (ticket : Nat → σ → Nat × σ) (amount : Nat) (s : σ) : List Nat × σ :=
  tickets ticket (min amount (total p.weights)) (total p.weights) s

/-- What is left of the weights of a pool before the draw of a number. -/
def left (p : Pool α) (drawn : List Nat) (j : Nat) : List Nat :=
  remaining p.weights (drawn.take j)

/-- Where nothing is left, everything with some weight was drawn. -/
theorem Drawn.mem_of_spent (h : Drawn ws past) (spent : past.length = total ws)
    (hk : 0 < ws.getD k 0) : k ∈ past := by
  have balanced := h.balanced
  refine List.count_pos_iff.mp (Nat.pos_of_ne_zero fun never => ?_)
  have left : 0 < (remaining ws past).getD k 0 := by
    rw [getD_remaining, never]
    exact hk
  have := total_takeOne left
  omega

/-- What was drawn lies inside the pool. -/
theorem Drawn.lt_size (h : Drawn p.weights past) (hk : k ∈ past) : k < p.size := by
  have often := List.count_pos_iff.mpr hk
  have inside := lt_length_of_getD_pos (Nat.lt_of_lt_of_le often (h.within k))
  rwa [weights, List.length_map] at inside

/-- There is an item at each position that was drawn. -/
theorem Drawn.items (h : Drawn p.weights past) :
    (past.eraseDups.filterMap (p.items[·]?)).map some = past.eraseDups.map (p.items[·]?) := by
  rw [List.map_filterMap_some_eq_filter_map_isSome, List.filter_eq_self]
  intro item hitem
  obtain ⟨k, hk, rfl⟩ := List.mem_map.mp hitem
  have inside : k < p.items.length := by
    rw [Pool.items, List.length_map]
    exact h.lt_size (List.mem_eraseDups.mp hk)
  rw [List.getElem?_eq_getElem inside, Option.isSome_some]

/-- A draw from a pool returns the items at the positions on which its tickets fall. -/
theorem draw_falls (nonempty : p.isEmpty = false) (ticket : Nat → σ → Nat × σ) {amount : Nat}
    (fits : amount ≤ room) (s : σ) (below : Below (total p.weights) (p.asked ticket amount s).1) :
    p.draw ticket amount s =
      (.ok ((falls p.weights [] (p.asked ticket amount s).1).eraseDups.filterMap (p.items[·]?)),
        (p.asked ticket amount s).2) := by
  have start : total p.weights = total (remaining p.weights []) := by rw [remaining_nil]
  have drawn := positions_falls ticket amount s start rfl below
  rw [remaining_nil, List.nil_append] at drawn
  have positions : positions ticket amount (p.entries.map (·.2)) [] s =
      ((falls p.weights [] (p.asked ticket amount s).1).eraseDups, (p.asked ticket amount s).2) :=
    drawn
  rw [draw_eq, nonempty, if_neg Bool.false_ne_true, if_neg (Nat.not_lt.mpr fits), positions]

/-- The position of an item has some weight. -/
theorem getD_weights_pos (heavy : ∀ w ∈ p.weights, 1 ≤ w) {a : α} (hk : p.items[k]? = some a) :
    0 < p.weights.getD k 0 := by
  obtain ⟨inside, -⟩ := List.getElem?_eq_some_iff.mp hk
  have inside' : k < p.weights.length := by
    rwa [weights, List.length_map, ← p.entries.length_map (·.1)]
  rw [List.getD_eq_getElem _ _ inside']
  exact heavy _ (List.getElem_mem inside')

/-- Where nothing is left, every item was drawn. -/
theorem Drawn.mem_of_items (h : Drawn p.weights past) (heavy : ∀ w ∈ p.weights, 1 ≤ w)
    (spent : past.length = total p.weights) {a : α} (ha : a ∈ p.items) :
    a ∈ past.eraseDups.filterMap (p.items[·]?) := by
  obtain ⟨k, hk⟩ := List.mem_iff_getElem?.mp ha
  have drew : k ∈ past := h.mem_of_spent spent (getD_weights_pos heavy hk)
  exact List.mem_filterMap.mpr ⟨k, List.mem_eraseDups.mpr drew, hk⟩

/-- Each draw brings an item in, unless it is there. -/
theorem Drawn.items_ne_nil (h : Drawn p.weights past) (some_draws : 0 < past.length) :
    past.eraseDups.filterMap (p.items[·]?) ≠ [] := by
  intro none
  have listed := h.items
  rw [none] at listed
  obtain ⟨k, r, rfl⟩ := List.exists_cons_of_length_pos some_draws
  have first : k ∈ (k :: r).eraseDups := List.mem_eraseDups.mpr List.mem_cons_self
  rw [List.map_eq_nil_iff.mp listed.symm] at first
  cases first

theorem total_pos (nonempty : p.isEmpty = false) (heavy : ∀ w ∈ p.weights, 1 ≤ w) :
    1 ≤ total p.weights := by
  rw [isEmpty, List.isEmpty_eq_false_iff] at nonempty
  obtain ⟨e, r, h⟩ := List.exists_cons_of_ne_nil nonempty
  have first := heavy e.2 (by rw [weights, h]; exact List.mem_cons_self)
  rw [weights, h, List.map_cons, total]
  omega

variable [DecidableEq α]

/-- The pools that come from making, removing and weighing anew, in any order. -/
inductive Reachable : Pool α → Prop where
  | ofList (items : List α) : Reachable (ofList items)
  | removeWhere {p : Pool α} (remove : α → Bool) : Reachable p → Reachable (p.removeWhere remove)
  | reweight {p : Pool α} (update : α → Nat → Nat) : Reachable p → Reachable (p.reweight update)

/-- **A pool that is reached** has distinct items, none of them of weight zero. -/
theorem Reachable.lawful (h : p.Reachable) :
    p.items.Nodup ∧ ∀ w ∈ p.weights, 1 ≤ w := by
  induction h with
  | ofList items =>
    refine ⟨nodup_items_ofList items, fun w hw => ?_⟩
    obtain ⟨e, he, rfl⟩ := List.mem_map.mp hw
    exact Nat.le_of_eq (weighs_ofList items e he).symm
  | removeWhere remove _ ih =>
    refine ⟨?_, fun w hw => ?_⟩
    · rw [items_removeWhere]
      exact ih.1.filter _
    · obtain ⟨e, he, rfl⟩ := List.mem_map.mp hw
      exact ih.2 _ (List.mem_map_of_mem (List.mem_filter.mp he).1)
  | reweight update _ ih =>
    refine ⟨by rw [items_reweight]; exact ih.1, fun w hw => ?_⟩
    obtain ⟨e, he, rfl⟩ := List.mem_map.mp hw
    obtain ⟨e', -, rfl⟩ := List.mem_map.mp he
    exact Nat.le_max_right _ _

/-- **Draws from a pool are draws without replacement.** Take a pool that was made, thinned out and
weighed anew in any way and is not empty, any amount, and any source of tickets that keeps to the
bounds in this draw. The items are distinct and weigh at least one.

If there cannot be room for the amount, however small the pool is, nothing is drawn, and the source
is asked for nothing. For every other amount there are as many draws as the amount, or as the sum of
the weights if that is less, and the source is asked for no other ticket. The ticket of a draw is
below the sum of what is left, which goes down by one with each draw. It falls on a position inside
the pool. Of all the tickets below the sum, as many fall on a position as its weight less the number
of times that it was drawn before, and no position is drawn more often than its weight. The items are
those at the drawn positions in the order of their first draws. They are distinct, at most as many as
the amount and as the pool has, at least one if the amount is at least one, and all of them once the
amount reaches the sum of the weights. -/
theorem draw_without_replacement (reachable : p.Reachable)
    (nonempty : p.isEmpty = false) (ticket : Nat → σ → Nat × σ) (amount : Nat) (s : σ)
    (below : ∀ j t, (p.asked ticket amount s).1[j]? = some t → t < total p.weights - j) :
    p.items.Nodup ∧ (∀ w ∈ p.weights, 1 ≤ w) ∧
    (room < amount → p.draw ticket amount s = (.error .overflow, s)) ∧
    (amount ≤ room → ∃ (drawn : List Nat) (items : List α),
      p.draw ticket amount s = (.ok items, (p.asked ticket amount s).2) ∧
      drawn.length = min amount (total p.weights) ∧
      (∀ j t, (p.asked ticket amount s).1[j]? = some t →
        drawn[j]? = some (pick (p.left drawn j) t) ∧ pick (p.left drawn j) t < p.size ∧
        total (p.left drawn j) = total p.weights - j ∧
        ∀ k, (List.range (total (p.left drawn j))).countP (pick (p.left drawn j) · == k) =
          p.weights.getD k 0 - (drawn.take j).count k) ∧
      (∀ k, drawn.count k ≤ p.weights.getD k 0) ∧
      items.map some = drawn.eraseDups.map (p.items[·]?) ∧ items.Nodup ∧
      (1 ≤ amount → items ≠ []) ∧ items.length ≤ min amount p.size ∧
      (total p.weights ≤ amount → items.Perm p.items)) := by
  obtain ⟨distinct, heavy⟩ := reachable.lawful
  refine ⟨distinct, heavy, fun beyond => draw_beyond nonempty beyond s, fun fits => ?_⟩
  have kept := (below_iff _ _).mpr below
  have answer := draw_falls nonempty ticket fits s kept
  have number : (falls p.weights [] (p.asked ticket amount s).1).length =
      min amount (total p.weights) := (length_falls _ _ _).trans (length_tickets _ _ _ _)
  have states (j : Nat) :
      Drawn p.weights ((falls p.weights [] (p.asked ticket amount s).1).take j) := by
    have run := (drawn_nil p.weights).falls (by rwa [remaining_nil]) j
    rwa [List.nil_append] at run
  have fallen := getElem?_falls p.weights [] (p.asked ticket amount s).1
  generalize falls p.weights [] (p.asked ticket amount s).1 = drawn at answer number states fallen
  have whole : Drawn p.weights drawn := by
    have last := states drawn.length
    rwa [List.take_length] at last
  obtain ⟨nodup, members, short⟩ := draw_eq_ok distinct answer
  have few := (List.subperm_of_subset nodup members).length_le
  rw [items, List.length_map] at few
  refine ⟨drawn, _, answer, number, fun j t ht => ?_, whole.within, whole.items, nodup,
    fun some_amount => whole.items_ne_nil ?_, Nat.le_min.mpr ⟨short, few⟩, fun enough => ?_⟩
  · have here := fallen j
    rw [ht, List.nil_append] at here
    have before : (drawn.take j).length = j := by
      have inside := (List.getElem?_eq_some_iff.mp here).1
      rw [List.length_take]
      omega
    have balanced := (states j).balanced
    have sum : total (p.left drawn j) = total p.weights - j := by
      rw [left]
      omega
    refine ⟨here, whole.lt_size (List.mem_of_getElem? here), sum, fun k => ?_⟩
    rw [countP_pick, left, getD_remaining]
  · have positive := total_pos nonempty heavy
    omega
  · exact (List.perm_ext_iff_of_nodup nodup distinct).mpr fun a =>
      ⟨members a, whole.mem_of_items heavy (by omega)⟩

/-- Three beads in an urn, of which the first is there twice. -/
def beads : Pool String := (ofList ["a", "b", "c"]).reweight fun a w => if a = "a" then 2 else w

/-- All of the beads are drawn, by random numbers. The bead in the middle is the first one, and it
lies between the other two with no weight when these are drawn. -/
theorem draw_without_replacement_beads :
    beads.Reachable ∧
      (beads.draw Random.below 4 (Replay.ofList [0x8000000000000000])).1 = .ok ["b", "a", "c"] ∧
      ["b", "a", "c"].Perm beads.items ∧
      ∃ drawn : List Nat, drawn.length = 4 ∧ ∀ k, drawn.count k ≤ [2, 1, 1].getD k 0 := by
  let words := Replay.ofList [0x8000000000000000]
  have reached : beads.Reachable := .reweight _ (.ofList _)
  have kept : Below (total beads.weights) (beads.asked Random.below 4 words).1 :=
    below_tickets (fun n s positive => Random.below_lt positive s) (Nat.min_le_right _ _) words
  have below := (below_iff _ _).mp kept
  have drew : (beads.draw Random.below 4 words).1 = .ok ["b", "a", "c"] := by decide +kernel
  have filled : beads.isEmpty = false := by decide +kernel
  have weigh : beads.weights = [2, 1, 1] := by decide +kernel
  obtain ⟨-, -, -, draws⟩ := draw_without_replacement reached filled Random.below 4 words below
  obtain ⟨drawn, items, answer, number, -, often, -, -, -, -, all⟩ := draws (by decide)
  have same : items = ["b", "a", "c"] := by
    rw [answer] at drew
    exact Except.ok.inj drew
  rw [weigh] at number often all
  exact ⟨reached, drew, same ▸ all (Nat.le_refl 4), drawn, number, often⟩

/-- There are four draws in the urn, which is enough for all of the beads, but of `2 ^ 60` draws
none is made. -/
theorem draw_overflow_beads :
    beads.Reachable ∧ beads.isEmpty = false ∧ total beads.weights = 4 ∧
      (∀ j t, (beads.asked Random.below (Nat.pow 2 60) (Replay.ofList [])).1[j]? = some t →
        t < 4 - j) ∧
      beads.draw Random.below (Nat.pow 2 60) (Replay.ofList []) =
        (.error .overflow, Replay.ofList []) ∧
      ∀ items, (beads.draw Random.below (Nat.pow 2 60) (Replay.ofList [])).1 ≠ .ok items := by
  have filled : beads.isEmpty = false := by decide +kernel
  have weigh : total beads.weights = 4 := by decide +kernel
  have kept : Below (total beads.weights)
      (beads.asked Random.below (Nat.pow 2 60) (Replay.ofList [])).1 :=
    below_tickets (fun n s positive => Random.below_lt positive s) (Nat.min_le_right _ _) _
  have below := (below_iff _ _).mp kept
  have drew : beads.draw Random.below (Nat.pow 2 60) (Replay.ofList []) =
      (.error .overflow, Replay.ofList []) := draw_beyond filled (by decide) _
  rw [weigh] at below
  exact ⟨.reweight _ (.ofList _), filled, weigh, below, drew, by rw [drew]; exact nofun⟩

end Pool
end OrderTrials
