/-
# Weighted pools

A pool holds distinct items, each with a weight of at least one. Drawing takes an item with a
chance that is proportional to its weight, as if the item lay in an urn as many times as its
weight says and each draw kept one copy. What is drawn more than once is returned once.

Before anything is drawn, room is made for as many positions as were asked for, however few there
are to be drawn. There is no list with room for more than `Pool.room` of them.

Key definitions: `Pool`, `Pool.ofList`, `Pool.pick`, `Pool.room`, `Pool.draw`, `Pool.removeWhere`,
`Pool.reweight`.
-/

namespace OrderTrials

universe u v

/-- Items with their weights. -/
structure Pool (α : Type u) where
  entries : List (α × Nat)
deriving DecidableEq, Inhabited

/-- Why nothing can be drawn. -/
inductive PoolFault where
  /-- The pool has no items. -/
  | empty
  /-- More was asked for than there can be room for. The program does not report this, it breaks
  off. -/
  | overflow
deriving DecidableEq, Inhabited

/-- A fault of drawing in words. -/
def PoolFault.message : PoolFault → String
  | empty => "Weighted pool is empty, nothing left to schedule"
  | overflow => "capacity overflow"

namespace Pool

variable {α : Type u} [DecidableEq α]

/-- The pool of the distinct items of a list, each of weight one. -/
def ofList (items : List α) : Pool α :=
  ⟨items.foldl (fun es a => if es.any (·.1 == a) then es else es ++ [(a, 1)]) []⟩

/-- The items in the order in which they came. -/
def items (p : Pool α) : List α := p.entries.map (·.1)

/-- The number of items. -/
def size (p : Pool α) : Nat := p.entries.length

/-- Whether the pool has no items. -/
def isEmpty (p : Pool α) : Bool := p.entries.isEmpty

/-- Whether an item is in the pool. -/
def contains (p : Pool α) (a : α) : Bool := p.entries.any (·.1 == a)

/-- The weight of an item. -/
def weight? (p : Pool α) (a : α) : Option Nat :=
  (p.entries.find? (·.1 == a)).map (·.2)

/-- The sum of weights. -/
def total : List Nat → Nat
  | [] => 0
  | w :: r => w + total r

/-- The position at which a ticket falls among weights laid end to end. -/
def pick : List Nat → Nat → Nat
  | [], _ => 0
  | w :: r, ticket => if ticket < w then 0 else pick r (ticket - w) + 1

/-- Takes one off the weight at a position. -/
def takeOne : List Nat → Nat → List Nat
  | [], _ => []
  | w :: r, 0 => (w - 1) :: r
  | w :: r, i + 1 => w :: takeOne r i

/-- Draws positions. `ticket` yields a number below the total of the weights that are left and the
next state of the source; drawing ends when nothing is left. Positions come in the order in which
they are first drawn. -/
def positions {σ : Type v} (ticket : Nat → σ → Nat × σ) :
    Nat → List Nat → List Nat → σ → List Nat × σ
  | 0, _, drawn, s => (drawn, s)
  | amount + 1, weights, drawn, s =>
    if total weights = 0 then (drawn, s)
    else
      let (t, s) := ticket (total weights) s
      let i := pick weights t
      let drawn := if drawn.contains i then drawn else drawn ++ [i]
      positions ticket amount (takeOne weights i) drawn s

/-- How many positions a list can have room for: each takes eight bytes, and all of them together
take less than half of the bytes that a word of 64 bits can count. That the machine may have less
memory than this is left out. -/
def room : Nat := (Nat.pow 2 63 - 1) / 8

/-- Draws `amount` times and returns the distinct items drawn. Room is made for `amount` positions
first. -/
def draw {σ : Type v} (p : Pool α) (ticket : Nat → σ → Nat × σ) (amount : Nat) (s : σ) :
    Except PoolFault (List α) × σ :=
  if p.isEmpty then (.error .empty, s)
  else if room < amount then (.error .overflow, s)
  else
    let (is, s) := positions ticket amount (p.entries.map (·.2)) [] s
    (.ok (is.filterMap fun i => p.entries[i]?.map (·.1)), s)

/-- The pool without the items that `remove` picks. -/
def removeWhere (p : Pool α) (remove : α → Bool) : Pool α :=
  ⟨p.entries.filter fun e => !remove e.1⟩

/-- The pool with new weights, none of them below one. -/
def reweight (p : Pool α) (update : α → Nat → Nat) : Pool α :=
  ⟨p.entries.map fun e => (e.1, max (update e.1 e.2) 1)⟩

end Pool
end OrderTrials
