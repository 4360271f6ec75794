import OrderTrials.Space.Dimension
import OrderTrials.Table
/-
# Configuration spaces

A configuration space is the set of dimensions of one analyzer, each under its name.

Key definitions: `Space`, `Space.add`, `Space.dimension`, `Space.declaredOrders`.
-/

namespace OrderTrials

/-- The dimensions of one analyzer. -/
structure Space where
  name : String
  dimensions : Table Dimension
deriving DecidableEq, Inhabited

namespace Space

/-- The space without dimensions. -/
def empty (name : String) : Space := ⟨name, .empty⟩

/-- Adds a dimension, unless there is one of its name. -/
def add (s : Space) (d : Dimension) : Except SpaceError Space :=
  if s.dimensions.contains d.name then .error (.duplicateOption d.name)
  else .ok { s with dimensions := s.dimensions.insert d.name d }

/-- The dimension of a name, if there is one. -/
def dimension? (s : Space) (name : String) : Option Dimension :=
  s.dimensions.get? name

/-- The dimension of a name. -/
def dimension (s : Space) (name : String) : Except SpaceError Dimension :=
  match s.dimension? name with
  | some d => .ok d
  | none => .error (.unknownOption name)

/-- The declared orders of all dimensions, dimension by dimension. -/
def declaredOrders (s : Space) : List Order :=
  s.dimensions.values.flatMap Dimension.declaredOrders

end Space
end OrderTrials
