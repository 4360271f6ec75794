import OrderTrials.Json.Printer
import OrderTrials.Json.Shape
import OrderTrials.Text.Quoted
import OrderTrials.Violation
/-
# Records of violations

A record keeps what was found about a pair of jobs, as a JSON document. The differences between
the results are listed in ascending order of their JSON texts, so the record does not depend on
the order in which results were read.

Key definitions: `Record`, `Record.ofViolation`, `Record.toJson`, `Record.read?`.
-/

namespace OrderTrials

/-- One job of a recorded pair. -/
structure JobRecord where
  configuration : Table String
  investigated : Option String
  fingerprint : String
  result : Option String
  elapsed : Nat
deriving Inhabited

/-- What was found about a pair of jobs. -/
structure Record where
  target : String
  option : String
  violated : Bool
  explicit : Bool
  transitive : Bool
  orders : List String
  first : JobRecord
  second : JobRecord
  onlyFirst : List Json.Value
  onlySecond : List Json.Value
deriving Inhabited

namespace JobRecord

open Json

/-- The record of a finished job. -/
def ofJob (f : FinishedJob) : JobRecord where
  configuration := f.configuration.levelNames
  investigated := f.investigated
  fingerprint := f.configuration.fingerprint
  result := f.result
  elapsed := min f.elapsed maxUnsigned

/-- A text that may be missing. -/
def textOrNull : Option String → Value
  | some s => .text s
  | none => .null

/-- The document of a recorded job. -/
def toJson (r : JobRecord) : Value :=
  .object [
    ("configuration", .object (r.configuration.entries.map fun e => (e.1, .text e.2))),
    ("option_under_investigation", textOrNull r.investigated),
    ("fingerprint", .text r.fingerprint),
    ("result", textOrNull r.result),
    ("elapsed_ms", .whole r.elapsed)]

/-- The fields of a recorded job. -/
def fields : List Field :=
  [⟨"configuration", .required⟩, ⟨"option_under_investigation", .nullable⟩,
    ⟨"fingerprint", .required⟩, ⟨"result", .nullable⟩, ⟨"elapsed_ms", .required⟩]

/-- Texts by name; of several with one name the last counts. -/
def table? : Document → Option (Table String)
  | .object members => do
    let entries ← members.mapM fun m => do return (← m.1, ← m.2.text?)
    return .ofList entries
  | _ => none

/-- The recorded job of a document. -/
def read? (d : Document) : Option JobRecord := do
  match ← d.fields? fields with
  | [some configuration, investigated, some fingerprint, result, some elapsed] =>
    return {
      configuration := ← table? configuration
      investigated := ← Document.maybe? Document.text? investigated
      fingerprint := ← fingerprint.text?
      result := ← Document.maybe? Document.text? result
      elapsed := ← elapsed.unsigned? }
  | _ => none

end JobRecord

namespace Record

open Json

/-- Results as JSON values in ascending order of their texts. -/
def sortedValues (results : List String) : List Value :=
  (results.map Value.text).mergeSort fun a b => decide (a.compact ≤ b.compact)

/-- The record of a pair of jobs. -/
def ofViolation (j : Judge String) (v : Violation) : Record where
  target := v.target.name
  option := v.option
  violated := j.violated v
  explicit := v.isExplicit
  transitive := v.isTransitive
  orders := v.orders.map fun o => o.text
  first := .ofJob v.first
  second := .ofJob v.second
  onlyFirst := sortedValues (j.onlyFirst v)
  onlySecond := sortedValues (j.onlySecond v)

/-- The document of a record. -/
def toJson (r : Record) : Value :=
  .object [
    ("target", .text r.target),
    ("option", .text r.option),
    ("violated", .bool r.violated),
    ("explicit", .bool r.explicit),
    ("transitive", .bool r.transitive),
    ("partial_orders", .list (r.orders.map .text)),
    ("job1", r.first.toJson),
    ("job2", r.second.toJson),
    ("job1_minus_job2", .list r.onlyFirst),
    ("job2_minus_job1", .list r.onlySecond)]

/-- The text of a record. -/
def text (r : Record) : String := r.toJson.pretty

/-- The fields of a record. -/
def fields : List Field :=
  ["target", "option", "violated", "explicit", "transitive", "partial_orders", "job1", "job2",
    "job1_minus_job2", "job2_minus_job1"].map fun name => ⟨name, .required⟩

/-- A value inside a list of a record, whose nesting counts from the record on. -/
def innerValue? (d : Document) : Option Value := d.valueWithin (Document.depthLimit - 2)

/-- The record of a document. -/
def ofDocument? (d : Document) : Option Record := do
  match ← d.fields? fields with
  | [some target, some option, some violated, some explicit, some transitive, some orders,
      some first, some second, some onlyFirst, some onlySecond] =>
    return {
      target := ← target.text?
      option := ← option.text?
      violated := ← violated.bool?
      explicit := ← explicit.bool?
      transitive := ← transitive.bool?
      orders := ← orders.list? Document.text?
      first := ← JobRecord.read? first
      second := ← JobRecord.read? second
      onlyFirst := ← onlyFirst.list? innerValue?
      onlySecond := ← onlySecond.list? innerValue? }
  | _ => none

/-- The record that a text spells. -/
def read? (text : String) : Option Record :=
  (Document.read? text).bind ofDocument?

end Record
end OrderTrials
