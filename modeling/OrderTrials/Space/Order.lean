import OrderTrials.Space.Level
/-
# Orders between levels

An order says that one level of an option is at least as sound, or at least as precise, as
another level of it. A derived order is an order together with how it follows from the declared
ones: through declared orders alone or not, and in one step or in several.

Key definitions: `Relation`, `Order`, `DerivedOrder`.
-/

namespace OrderTrials

/-- The two relations that an order can state. -/
inductive Relation where
  | moreSound
  | morePrecise
deriving DecidableEq, Inhabited

namespace Relation

/-- The relation in words. -/
def text : Relation → String
  | moreSound => "MORE_SOUND_THAN"
  | morePrecise => "MORE_PRECISE_THAN"

/-- The relation in three letters, as artifacts and records write it. -/
def code : Relation → String
  | moreSound => "MST"
  | morePrecise => "MPT"

/-- The relation that three letters stand for. -/
def ofCode? (s : String) : Option Relation :=
  if s = "MST" then some moreSound else if s = "MPT" then some morePrecise else none

end Relation

/-- The statement that `left` stands in `relation` to `right`, both levels of `option`. -/
structure Order where
  left : Level
  relation : Relation
  right : Level
  option : String
deriving DecidableEq, Inhabited

namespace Order

/-- An order as it is shown: left, relation, right. -/
def text (o : Order) : String :=
  o.left.text ++ " " ++ o.relation.text ++ " " ++ o.right.text

/-- Whether the order reads `left` on its left and `right` on its right. -/
def reads (o : Order) (left right : Level) : Bool :=
  o.left == left && o.right == right

end Order

/-- An order that holds. `explicit` says that declared steps alone lead to it, `transitive` that
no single step does. -/
structure DerivedOrder extends Order where
  explicit : Bool
  transitive : Bool
deriving DecidableEq, Inhabited

end OrderTrials
