import OrderTrials.Json.Value
/-
# Shapes of JSON documents

Readers that want a document to have a certain shape: a string, a whole number of a given width,
a list, or a record with named fields. A record may also be written as the list of its fields in
their order. Members that a record does not know are skipped, whatever they hold; a member that
it knows must not be repeated.

Key definitions: `Json.Field`, `Json.Document.fields?`.
-/

namespace OrderTrials
namespace Json

/-- When a field may be missing from a record. -/
inductive Presence where
  /-- Never. -/
  | required
  /-- From an object, where it then counts as null; not from a list. -/
  | nullable
  /-- From an object, and from the end of a list. -/
  | defaulted
deriving DecidableEq

/-- A field of a record. -/
structure Field where
  name : String
  presence : Presence

namespace Document

/-- A string. -/
def text? : Document → Option String
  | .leaf (.text contents) => contents
  | _ => none

/-- A truth value. -/
def bool? : Document → Option Bool
  | .leaf (.bool b) => some b
  | _ => none

/-- A whole number that fits a word of 64 bits, signed or not. -/
def whole? : Document → Option Int
  | .leaf (.number n) => n.whole?
  | _ => none

/-- A signed word of 64 bits. -/
def signed? (d : Document) : Option Int :=
  d.whole?.filter Text.isSignedWord

/-- An unsigned word of 64 bits. -/
def unsigned? (d : Document) : Option Nat :=
  d.whole?.bind fun n => if 0 ≤ n then some n.toNat else none

/-- Null, or what `read` wants. -/
def nullable? {α : Type} (read : Document → Option α) : Document → Option (Option α)
  | .leaf .null => some none
  | d => (read d).map some

/-- A list of what `read` wants. -/
def list? {α : Type} (read : Document → Option α) : Document → Option (List α)
  | .list items => items.mapM read
  | _ => none

/-- One of several names: as a string, or as the only key of an object with the value null. -/
def name? : Document → Option String
  | .leaf (.text contents) => contents
  | .object [(some k, .leaf .null)] => some k
  | _ => none

/-- The values of fields in a list of as many items or, from the end, fewer. -/
def fieldsOfItems? : List Field → List Document → Option (List (Option Document))
  | [], [] => some []
  | [], _ :: _ => none
  | f :: fs, [] =>
    if f.presence = .defaulted then (fieldsOfItems? fs []).map (none :: ·) else none
  | _ :: fs, d :: ds => (fieldsOfItems? fs ds).map (some d :: ·)

/-- The value of a field among the members of an object. -/
def memberOf? (members : List (String × Document)) (f : Field) : Option (Option Document) :=
  match members.filter (·.1 == f.name) with
  | [] => if f.presence = .required then none else some none
  | [m] => some (some m.2)
  | _ => none

/-- The values of the fields of a record, in the order of the fields; a missing one is none. -/
def fields? (fs : List Field) : Document → Option (List (Option Document))
  | .list items => fieldsOfItems? fs items
  | .object members => do
    let named ← members.mapM fun m => m.1.map (·, m.2)
    fs.mapM (memberOf? named)
  | .leaf _ => none

/-- What `read` wants, where a missing value is `fallback`. -/
def orElse? {α : Type} (fallback : α) (read : Document → Option α) :
    Option Document → Option α
  | none => some fallback
  | some d => read d

/-- What `read` wants, where a missing value or null is none. -/
def maybe? {α : Type} (read : Document → Option α) : Option Document → Option (Option α)
  | none => some none
  | some d => d.nullable? read

end Document
end Json
end OrderTrials
