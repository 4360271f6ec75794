import OrderTrials.FileTree
import OrderTrials.Json.Printer
import OrderTrials.Json.Shape
import OrderTrials.Text.Blank
/-
# Readers of results

A run of the analyzer leaves a text, and a reader turns the text into the set of results in it. A
set is a list without repetitions, whose order means nothing. An absent text has no results, and
for a reader of JSON neither has a blank one.

Key definitions: `Reader`, `Reader.read`, `Reader.lines`, `Reader.jsonValues`, `Reader.jsonList`.
-/

namespace OrderTrials

/-- Why results cannot be read. -/
inductive ReadFault where
  /-- There is no text to be had. -/
  | io
  /-- The text is not one that the reader knows. -/
  | malformed
deriving DecidableEq, Inhabited

/-- A way to find results in a text. -/
structure Reader (R : Type) where
  parse : String → Option (List R)

namespace Reader

variable {R : Type} [DecidableEq R]

/-- The text of a file; none if the file is absent. -/
def textAt (files : FileTree) (path : String) : Except ReadFault (Option String) :=
  match files.read path with
  | .error .notFound => .ok none
  | .error _ => .error .io
  | .ok bytes =>
    match String.fromUTF8? bytes with
    | none => .error .io
    | some text => .ok (some text)

/-- What is written as a text is read as the text. -/
theorem textAt_of_read {files : FileTree} {path text : String}
    (h : files.read path = .ok text.toUTF8) : textAt files path = .ok (some text) := by
  simp only [textAt, h, fromUTF8?_toUTF8]

/-- The results in a file. -/
def read (r : Reader R) (files : FileTree) (path : String) : Except ReadFault (List R) :=
  match textAt files path with
  | .error fault => .error fault
  | .ok none => .ok []
  | .ok (some text) =>
    match r.parse text with
    | none => .error .malformed
    | some results => .ok results.eraseDups

/-- The results in a file, none if they cannot be read. -/
def readOrEmpty (r : Reader R) (files : FileTree) (path : String) : List R :=
  match r.read files path with
  | .ok results => results
  | .error _ => []

/-- One result per line that is not blank, without the white space around it. -/
def lines : Reader String :=
  ⟨fun text => some (((Text.lines text).map Text.trim).filter (!·.isEmpty))⟩

/-- Whether a text consists of white space. -/
def isBlankText (text : String) : Bool := text.toList.all Text.isBlank

/-- The items of a JSON list, each of the shape that `item` wants. -/
def jsonList (item : Json.Document → Option R) : Reader R :=
  ⟨fun text =>
    if isBlankText text then some []
    else (Json.Document.read? text).bind (Json.Document.list? item)⟩

/-- The items of a JSON list that are strings. -/
def jsonTexts : Reader String := jsonList Json.Document.text?

/-- The items of a JSON list as compact texts, so that equal values are equal results. -/
def jsonValues : Reader String :=
  jsonList fun d => (d.valueWithin (Json.Document.depthLimit - 1)).map Json.Value.compact

end Reader
end OrderTrials
