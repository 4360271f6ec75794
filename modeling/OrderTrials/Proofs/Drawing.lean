import Mathlib.Data.List.Nodup
import OrderTrials.Pool
/-
# What is drawn from a pool

A pool is made without repetitions, and neither removing items nor changing weights brings one in.
A draw returns members of the pool, each once and in the order in which their positions are first
drawn, and no more of them than it was asked for, whatever tickets it gets.

Key theorems: `Pool.mem_items_ofList`, `Pool.nodup_items_ofList`, `Pool.draw_eq_ok`.
-/

namespace OrderTrials
namespace Pool

universe u v

variable {α : Type u}

/-! ### Items -/

theorem items_removeWhere (p : Pool α) (remove : α → Bool) :
    (p.removeWhere remove).items = p.items.filter fun a => !remove a := by
  rw [items, items, removeWhere, List.filter_map]
  rfl

/-- Removing items twice removes what either removal picks. -/
theorem removeWhere_removeWhere (p : Pool α) (f g : α → Bool) :
    (p.removeWhere f).removeWhere g = p.removeWhere fun a => f a || g a := by
  simp [removeWhere, List.filter_filter, Bool.and_comm]

@[simp]
theorem items_reweight (p : Pool α) (update : α → Nat → Nat) :
    (p.reweight update).items = p.items := by
  simp [items, reweight, List.map_map, Function.comp_def]

/-- The items at distinct positions of a list without repetitions are distinct. -/
theorem nodup_filterMap_getElem? {items : List α} (h : items.Nodup) {is : List Nat}
    (his : is.Nodup) : (is.filterMap fun i => items[i]?).Nodup := by
  refine his.filterMap fun i k a hi hk => ?_
  obtain ⟨hlt, -⟩ := List.getElem?_eq_some_iff.mp hi
  exact (List.getElem?_inj hlt h).mp (hi.trans hk.symm)

/-! ### Draws -/

variable {p : Pool α} {σ : Type v} {ticket : Nat → σ → Nat × σ}

/-- Each draw adds at most one position, and none twice. -/
theorem positions_spec (ticket : Nat → σ → Nat × σ) (amount : Nat) (weights drawn : List Nat)
    (s : σ) (h : drawn.Nodup) :
    (positions ticket amount weights drawn s).1.Nodup ∧
      (positions ticket amount weights drawn s).1.length ≤ drawn.length + amount := by
  induction amount generalizing weights drawn s with
  | zero => exact ⟨h, Nat.le_refl _⟩
  | succ amount ih =>
    rw [positions]
    split
    · exact ⟨h, by dsimp only; omega⟩
    · dsimp only
      generalize pick weights (ticket (total weights) s).1 = i
      by_cases hi : i ∈ drawn
      · rw [if_pos (List.contains_iff_mem.mpr hi)]
        obtain ⟨nodup, short⟩ := ih (takeOne weights i) drawn (ticket (total weights) s).2 h
        exact ⟨nodup, by omega⟩
      · rw [if_neg (fun c => hi (List.contains_iff_mem.mp c))]
        have grown : (drawn ++ [i]).Nodup :=
          List.nodup_append.mpr ⟨h, List.nodup_singleton i, fun a ha b hb e =>
            hi (List.mem_singleton.mp hb ▸ e ▸ ha)⟩
        obtain ⟨nodup, short⟩ :=
          ih (takeOne weights i) (drawn ++ [i]) (ticket (total weights) s).2 grown
        rw [List.length_append, List.length_singleton] at short
        exact ⟨nodup, by omega⟩

/-- **A draw** fails from a pool without items, and if there cannot be room for the amount; the source
is asked for nothing then. Otherwise it returns the items at the positions that are drawn. -/
theorem draw_eq (p : Pool α) (ticket : Nat → σ → Nat × σ) (amount : Nat) (s : σ) :
    p.draw ticket amount s =
      if p.isEmpty then (.error .empty, s)
      else if room < amount then (.error .overflow, s)
      else
        let drawn := positions ticket amount (p.entries.map (·.2)) [] s
        (.ok (drawn.1.filterMap (p.items[·]?)), drawn.2) := by
  have at_item : (fun i : Nat => (p.entries[i]?).map (·.1)) = (p.items[·]?) := by
    funext i
    rw [items, List.getElem?_map]
  rw [draw, at_item]

/-- **What is drawn** are distinct members of the pool, at most as many as were asked for. -/
theorem draw_eq_ok (h : p.items.Nodup) {amount : Nat} {s s' : σ} {drawn : List α}
    (hd : p.draw ticket amount s = (.ok drawn, s')) :
    drawn.Nodup ∧ (∀ a ∈ drawn, a ∈ p.items) ∧ drawn.length ≤ amount := by
  rw [draw_eq] at hd
  split at hd
  · cases hd
  split at hd
  · cases hd
  obtain ⟨hdrawn, -⟩ := Prod.mk.inj hd
  obtain rfl := Except.ok.inj hdrawn
  obtain ⟨nodup, short⟩ :=
    positions_spec ticket amount (p.entries.map (·.2)) [] s List.nodup_nil
  refine ⟨nodup_filterMap_getElem? h nodup, fun a ha => ?_, ?_⟩
  · obtain ⟨i, -, hi⟩ := List.mem_filterMap.mp ha
    exact List.mem_of_getElem? hi
  · have := List.length_filterMap_le (p.items[·]?)
      (positions ticket amount (p.entries.map (·.2)) [] s).1
    simp only [List.length_nil, Nat.zero_add] at short
    exact Nat.le_trans this short

/-- **Why nothing is drawn:** the pool is empty, or there cannot be room for the amount. -/
theorem draw_eq_error {amount : Nat} {fault : PoolFault} {s s' : σ}
    (h : p.draw ticket amount s = (.error fault, s')) :
    fault = .empty ∧ p.isEmpty = true ∨ fault = .overflow ∧ room < amount := by
  rw [draw_eq] at h
  split at h
  · rename_i none
    cases h
    exact .inl ⟨rfl, none⟩
  split at h
  · rename_i beyond
    cases h
    exact .inr ⟨rfl, beyond⟩
  · cases h

/-- Beyond the room that there can be, nothing is drawn from a pool with items. -/
theorem draw_beyond {amount : Nat} (some : p.isEmpty = false) (beyond : room < amount) (s : σ) :
    p.draw ticket amount s = (.error .overflow, s) := by
  rw [draw_eq, some, if_neg Bool.false_ne_true, if_pos beyond]

/-- **Something is drawn** from a pool with items if there can be room for the amount. -/
theorem draw_defined {amount : Nat} (some : p.isEmpty = false) (fits : amount ≤ room)
    (ticket : Nat → σ → Nat × σ) (s : σ) :
    ∃ drawn s', p.draw ticket amount s = (.ok drawn, s') := by
  rw [draw_eq, some, if_neg Bool.false_ne_true, if_neg (Nat.not_lt.mpr fits)]
  exact ⟨_, _, rfl⟩

/-! ### Making a pool -/

variable [DecidableEq α]

/-- Going through a list of items adds those that are new, each once. -/
theorem foldl_ofList (items : List α) (es : List (α × Nat)) (h : (es.map (·.1)).Nodup) :
    let all := items.foldl (fun es a => if es.any (·.1 == a) then es else es ++ [(a, 1)]) es
    (all.map (·.1)).Nodup ∧ ∀ a, a ∈ all.map (·.1) ↔ a ∈ es.map (·.1) ∨ a ∈ items := by
  induction items generalizing es with
  | nil => simpa using h
  | cons a items ih =>
    have any_iff : es.any (·.1 == a) = true ↔ a ∈ es.map (·.1) := by
      simp [List.any_eq_true, List.mem_map]
    rw [List.foldl_cons]
    by_cases ha : a ∈ es.map (·.1)
    · rw [if_pos (any_iff.mpr ha)]
      obtain ⟨nodup, mem⟩ := ih es h
      refine ⟨nodup, fun b => ?_⟩
      rw [mem, List.mem_cons]
      constructor
      · rintro (hb | hb)
        · exact .inl hb
        · exact .inr (.inr hb)
      · rintro (hb | rfl | hb)
        · exact .inl hb
        · exact .inl ha
        · exact .inr hb
    · rw [if_neg (fun any => ha (any_iff.mp any))]
      have grown : ((es ++ [(a, 1)] : List (α × Nat)).map (·.1)).Nodup := by
        rw [List.map_append]
        refine List.nodup_append.mpr ⟨h, List.nodup_singleton a, fun b hb c hc e => ?_⟩
        obtain rfl : c = a := by simpa using hc
        exact ha (e ▸ hb)
      obtain ⟨nodup, mem⟩ := ih _ grown
      refine ⟨nodup, fun b => ?_⟩
      rw [mem, List.map_append, List.mem_append, List.mem_cons, or_assoc]
      simp

/-- A pool is made without repetitions. -/
theorem nodup_items_ofList (l : List α) : (ofList l).items.Nodup :=
  (foldl_ofList l [] (by simp)).1

/-- A pool has the items that it is made of. -/
theorem mem_items_ofList (l : List α) (a : α) : a ∈ (ofList l).items ↔ a ∈ l := by
  rw [items, ofList, (foldl_ofList l [] (by simp)).2]
  simp

end Pool
end OrderTrials
