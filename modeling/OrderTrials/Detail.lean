import OrderTrials.Text.Quoted
import OrderTrials.Violation
/-
# Pairs in full detail

A pair of runs with all that is known about it, in one line for a log: each part under its name,
texts between quotes, and the verdict if there is one yet.

Key definitions: `Level.detail`, `DerivedOrder.detail`, `Violation.detail`.
-/

namespace OrderTrials
namespace Detail

/-- Named parts under a title. -/
def fields (title : String) (parts : List (String × String)) : String :=
  title ++ " \x7b " ++ ", ".intercalate (parts.map fun p => p.1 ++ ": " ++ p.2) ++ " \x7d"

/-- A truth value. -/
def ofBool (b : Bool) : String := if b then "true" else "false"

/-- A value that may be missing. -/
def ofOption : Option String → String
  | none => "None"
  | some s => "Some(" ++ s ++ ")"

end Detail

open Detail

/-- A level in detail. -/
def Level.detail (l : Level) : String :=
  fields "Level" [("option_name", Text.quoted l.option), ("level_name", Text.quoted l.name)]

/-- A relation in detail. -/
def Relation.detail : Relation → String
  | .moreSound => "MoreSoundThan"
  | .morePrecise => "MorePreciseThan"

/-- An order in detail. -/
def DerivedOrder.detail (o : DerivedOrder) : String :=
  fields "PartialOrder" [("left", o.left.detail), ("order_type", o.relation.detail),
    ("right", o.right.detail), ("option_name", Text.quoted o.option),
    ("explicit", ofBool o.explicit), ("transitive", ofBool o.transitive)]

/-- A pair in detail. -/
def Violation.detail (v : Violation) (verdict : Option Bool) : String :=
  fields "PotentialViolation" [
    ("target", fields "Benchmark" [("name", Text.quoted v.target.name)]),
    ("option", Text.quoted v.option),
    ("partial_orders", "[" ++ ", ".intercalate (v.orders.map DerivedOrder.detail) ++ "]"),
    ("job1", Text.quoted v.first.configuration.text),
    ("job2", Text.quoted v.second.configuration.text),
    ("violated", ofOption (verdict.map ofBool))]

end OrderTrials
