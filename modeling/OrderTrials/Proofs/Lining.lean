import Mathlib.Data.Set.Basic
import OrderTrials.Results.Reader
/-
# Results on lines

What stands on a line is the line without the white space at its ends, if anything is left
(`Text.holds_iff`). A text can be cut into lines in several ways: the carriage return before a line
feed belongs to the line or to its end, and nothing needs to stand behind the last line feed. All
these ways agree on what stands on the lines (`Text.Lined.holds_iff`), which is what is found in the
text. So a text that is put together from two with a line feed between them has the results of both,
and results that are written on lines of their own are read back (`Reader.lines_alike`).

Key definitions: `Text.Solid`, `Text.Holds`, `Text.Lined`, `Reader.setIn`.
Key theorems: `Text.holds_iff`, `Text.Lined.holds_iff`, `Reader.read_of_parse`,
`Reader.lines_alike`.
-/

namespace OrderTrials

/-! ### Trimmed texts -/

namespace Text

variable {s t before after : List Char} {rows : List String} {line text x : String}

/-- A text with something in it and no white space at its ends. -/
def Solid (s : List Char) : Prop :=
  (∃ c ∈ s.head?, isBlank c = false) ∧ ∃ c ∈ s.getLast?, isBlank c = false

/-- What stands on a line: a solid text, with white space around it at most. -/
def Holds (line x : String) : Prop :=
  Solid x.toList ∧ ∃ before after, before.all isBlank = true ∧ after.all isBlank = true ∧
    line.toList = before ++ x.toList ++ after

theorem Solid.ne_nil (h : Solid s) : s ≠ [] := by
  rintro rfl
  obtain ⟨⟨c, hc, -⟩, -⟩ := h
  cases hc

theorem Solid.reverse (h : Solid s) : Solid s.reverse := by
  obtain ⟨⟨c, hc, first⟩, d, hd, last⟩ := h
  refine ⟨⟨d, ?_, last⟩, c, ?_, first⟩
  · rwa [List.head?_reverse]
  · rwa [List.getLast?_reverse]

/-- Nothing of a solid text is dropped. -/
theorem Solid.dropWhile (h : Solid s) : s.dropWhile isBlank = s := by
  obtain ⟨⟨c, hc, first⟩, -⟩ := h
  obtain ⟨r, rfl⟩ := List.head?_eq_some_iff.mp hc
  rw [List.dropWhile_cons, first, if_neg Bool.false_ne_true]

/-- **The white space around a solid text is dropped.** -/
theorem Solid.trimBlank (h : Solid s) (blank : before.all isBlank = true)
    (blank' : after.all isBlank = true) : trimBlank (before ++ s ++ after) = s := by
  obtain ⟨c, r, hr⟩ := List.exists_cons_of_ne_nil h.ne_nil
  have front : (before ++ s ++ after).dropWhile isBlank = s ++ after := by
    obtain ⟨⟨e, he, first⟩, -⟩ := h
    rw [List.append_assoc, List.dropWhile_append_of_pos (List.all_eq_true.mp blank)]
    rw [hr] at he ⊢
    obtain rfl := Option.some.inj he
    rw [List.cons_append, List.dropWhile_cons, first, if_neg Bool.false_ne_true]
  have back : (s ++ after).reverse.dropWhile isBlank = s.reverse := by
    rw [List.reverse_append, List.dropWhile_append_of_pos, h.reverse.dropWhile]
    intro d hd
    exact List.all_eq_true.mp blank' d (List.mem_reverse.mp hd)
  rw [Text.trimBlank, front, back, List.reverse_reverse]

/-- Blank characters are dropped from the front, and what is left starts with another one. -/
theorem exists_dropWhile (s : List Char) :
    ∃ before, before.all isBlank = true ∧ s = before ++ s.dropWhile isBlank ∧
      ∀ c ∈ (s.dropWhile isBlank).head?, isBlank c = false := by
  refine ⟨s.takeWhile isBlank, List.all_takeWhile, List.takeWhile_append_dropWhile.symm, ?_⟩
  intro c hc
  have first := List.head?_dropWhile_not isBlank s
  rw [Option.mem_def.mp hc] at first
  exact first

/-- A text is what trimming leaves of it, which is nothing or solid, with white space around it. -/
theorem exists_trimBlank (s : List Char) :
    (trimBlank s = [] ∨ Solid (trimBlank s)) ∧ ∃ before after, before.all isBlank = true ∧
      after.all isBlank = true ∧ s = before ++ trimBlank s ++ after := by
  obtain ⟨before, blank, front, first⟩ := exists_dropWhile s
  obtain ⟨after, blank', back, last⟩ := exists_dropWhile (s.dropWhile isBlank).reverse
  have inner : s.dropWhile isBlank = trimBlank s ++ after.reverse := by
    rw [← List.reverse_inj, List.reverse_append, List.reverse_reverse, trimBlank,
      List.reverse_reverse]
    exact back
  refine ⟨?_, before, after.reverse, blank, by rwa [List.all_reverse], ?_⟩
  · cases something : trimBlank s with
    | nil => exact .inl rfl
    | cons c r =>
      refine .inr ⟨⟨c, rfl, first c ?_⟩, ?_⟩
      · rw [inner, something]
        rfl
      · obtain ⟨d, hd⟩ := Option.isSome_iff_exists.mp
          (List.getLast?_isSome.mpr (List.cons_ne_nil c r))
        refine ⟨d, hd, last d ?_⟩
        rwa [← something, trimBlank, List.getLast?_reverse] at hd
  · rw [List.append_assoc, ← inner]
    exact front

/-- **What is left of a line after trimming,** if anything, is what stands on it. -/
theorem holds_iff (line x : String) : Holds line x ↔ trim line = x ∧ x ≠ "" := by
  constructor
  · rintro ⟨solid, before, after, blank, blank', parts⟩
    refine ⟨?_, fun nothing => solid.ne_nil (by rw [nothing]; rfl)⟩
    rw [trim, parts, solid.trimBlank blank blank', String.ofList_toList]
  · rintro ⟨rfl, something⟩
    obtain ⟨nothing | solid, before, after, blank, blank', parts⟩ := exists_trimBlank line.toList
    · exact absurd (by rw [trim, nothing]) something
    · rw [Holds, trim, String.toList_ofList]
      exact ⟨solid, before, after, blank, blank', parts⟩

/-- White space at the end of a line makes no difference. -/
theorem trimBlank_append (s : List Char) (blank : after.all isBlank = true) :
    trimBlank (s ++ after) = trimBlank s := by
  obtain ⟨nothing | solid, front, back, hfront, hback, parts⟩ := exists_trimBlank s
  · have all : (s ++ after).all isBlank = true := by
      rw [List.all_append, parts, nothing, List.all_append, List.all_append, hfront, hback, blank]
      rfl
    have dropped : (s ++ after).dropWhile isBlank = [] := by
      rw [← List.append_nil (s ++ after), List.dropWhile_append_of_pos (List.all_eq_true.mp all)]
      rfl
    rw [nothing, trimBlank, dropped]
    rfl
  · have longer : (back ++ after).all isBlank = true := by
      rw [List.all_append, hback, blank, Bool.and_self]
    have whole : s ++ after = front ++ trimBlank s ++ (back ++ after) := by
      rw [← List.append_assoc, ← parts]
    rw [whole]
    exact solid.trimBlank hfront longer

/-! ### Lines -/

/-- A text in lines. A line has no line feed in it, and it ends with a line feed or with a carriage
return and a line feed; a line that ends with the text needs no end. -/
inductive Lined : List String → String → Prop where
  | nothing : Lined [] ""
  | last {row : String} : '\n' ∉ row.toList → Lined [row] row
  | feed {row : String} {rows : List String} {text : String} : '\n' ∉ row.toList →
      Lined rows text → Lined (row :: rows) (row ++ "\n" ++ text)
  | returned {row : String} {rows : List String} {text : String} : '\n' ∉ row.toList →
      Lined rows text → Lined (row :: rows) (row ++ "\r\n" ++ text)

theorem Lined.plain (h : Lined rows text) : ∀ row ∈ rows, '\n' ∉ row.toList := by
  induction h with
  | nothing => exact fun row hrow => absurd hrow List.not_mem_nil
  | last plain => exact List.forall_mem_singleton.mpr plain
  | feed plain _ ih => exact List.forall_mem_cons.mpr ⟨plain, ih⟩
  | returned plain _ ih => exact List.forall_mem_cons.mpr ⟨plain, ih⟩

/-- The pieces of a text between its line feeds. -/
def pieces (text : String) : List (List Char) := splitAt (· == '\n') text.toList

theorem pieces_append (a b : String) : pieces (a ++ "\n" ++ b) = pieces a ++ pieces b := by
  have feed : "\n".toList = ['\n'] := rfl
  rw [pieces, String.toList_append, String.toList_append, feed, List.append_assoc,
    List.singleton_append]
  exact splitAt_append rfl a.toList b.toList

theorem pieces_of_row (plain : '\n' ∉ line.toList) : pieces line = [line.toList] := by
  refine splitAt_of_none fun c hc => ?_
  rw [beq_eq_false_iff_ne]
  rintro rfl
  exact plain hc

/-- Every text is in lines. -/
theorem exists_lined (text : String) : ∃ rows, Lined rows text := by
  by_cases feed : '\n' ∈ text.toList
  · obtain ⟨row, rest, parts, plain⟩ := List.eq_append_cons_of_mem feed
    have shorter : rest.length < text.toList.length := by
      rw [parts, List.length_append, List.length_cons]
      omega
    obtain ⟨rows, lined⟩ := exists_lined (String.ofList rest)
    have whole : text = String.ofList row ++ "\n" ++ String.ofList rest := by
      simp [← String.toList_inj, parts]
    rw [whole]
    exact ⟨_, .feed (by rwa [String.toList_ofList]) lined⟩
  · exact ⟨[text], .last feed⟩
termination_by text.toList.length

/-- **The lines of a text hold what the pieces between its line feeds hold,** however it is cut into
lines. A carriage return that ends a piece is white space at its end. -/
theorem Lined.holds_iff (h : Lined rows text) (x : String) :
    (∃ row ∈ rows, Holds row x) ↔ ∃ piece ∈ pieces text, Holds (String.ofList piece) x := by
  induction h with
  | nothing =>
    have empty : ¬ Holds "" x := by
      rw [Text.holds_iff]
      rintro ⟨rfl, something⟩
      exact something rfl
    simpa [pieces, splitAt] using empty
  | last plain => simp [pieces_of_row plain]
  | feed plain _ ih => simp [pieces_append, pieces_of_row plain, ih]
  | @returned row rows text plain _ ih =>
    have cut : row ++ "\r\n" ++ text = (row ++ "\r") ++ "\n" ++ text := by
      rw [String.append_assoc, String.append_assoc, String.append_assoc]
      rfl
    have plain' : '\n' ∉ (row ++ "\r").toList := by
      rw [String.toList_append, List.mem_append, not_or]
      exact ⟨plain, by decide⟩
    have same : Holds (row ++ "\r") x ↔ Holds row x := by
      rw [Text.holds_iff, Text.holds_iff, trim, trim, String.toList_append,
        trimBlank_append row.toList (by decide)]
    rw [cut, pieces_append, pieces_of_row plain']
    simp [ih, same]

end Text

/-! ### What a reader finds -/

namespace Reader

open Text

variable {R : Type} {r : Reader R} {files : FileTree} {path text : String} {found : List R}
  {rows : List String} {x y : String}

/-- The set of results that a reader finds in a text. -/
def setIn (r : Reader R) (text : String) : Set R :=
  {x | ∃ found, r.parse text = some found ∧ x ∈ found}

theorem mem_setIn {x : R} : x ∈ r.setIn text ↔ ∃ found, r.parse text = some found ∧ x ∈ found :=
  Iff.rfl

/-- **A file that holds a text is read as the text.** -/
theorem read_of_parse [DecidableEq R] (holds : textAt files path = .ok (some text))
    (parsed : r.parse text = some found) :
    ∃ results, r.read files path = .ok results ∧ ∀ x, x ∈ results ↔ x ∈ r.setIn text := by
  refine ⟨found.eraseDups, by simp only [read, holds, parsed], fun x => ?_⟩
  rw [List.mem_eraseDups, mem_setIn, parsed]
  simp

/-- What is found on lines is what they hold. -/
theorem mem_lines_iff (text x : String) :
    x ∈ lines.setIn text ↔ ∃ piece ∈ pieces text, Holds (String.ofList piece) x := by
  have parsed : lines.parse text =
      some (((pieces text).map fun piece => trim (String.ofList piece)).filter (!·.isEmpty)) := by
    change some (((splitAt (· == '\n') text.toList).map String.ofList |>.map trim).filter _) = _
    rw [List.map_map]
    rfl
  rw [mem_setIn, parsed]
  simp only [Option.some.injEq, exists_eq_left', List.mem_filter, List.mem_map, Text.holds_iff]
  constructor
  · rintro ⟨⟨piece, hp, rfl⟩, something⟩
    exact ⟨piece, hp, rfl, by simpa using something⟩
  · rintro ⟨piece, hp, rfl, something⟩
    exact ⟨⟨piece, hp, rfl⟩, by simpa using something⟩

theorem mem_lines_iff_of_lined (h : Lined rows text) (x : String) :
    x ∈ lines.setIn text ↔ ∃ row ∈ rows, Holds row x := by
  rw [mem_lines_iff, h.holds_iff]

/-- **A line feed between two texts keeps their results.** -/
theorem lines_append (a b : String) :
    lines.setIn (a ++ "\n" ++ b) = lines.setIn a ∪ lines.setIn b := by
  ext x
  rw [Set.mem_union, mem_lines_iff, mem_lines_iff, mem_lines_iff, pieces_append]
  simp only [List.mem_append, or_and_right, exists_or]

/-! ### Results that are written on lines -/

/-- A result is a line that holds the result and nothing else. -/
theorem line_of_mem_lines (h : x ∈ lines.setIn text) :
    '\n' ∉ x.toList ∧ ∀ y, Holds x y ↔ y = x := by
  obtain ⟨rows, lined⟩ := exists_lined text
  obtain ⟨row, hrow, solid, before, after, -, -, parts⟩ := (mem_lines_iff_of_lined lined x).mp h
  have self : Holds x x := ⟨solid, [], [], rfl, rfl, by rw [List.nil_append, List.append_nil]⟩
  constructor
  · intro feed
    refine lined.plain row hrow ?_
    rw [parts]
    exact List.mem_append_left _ (List.mem_append_right _ feed)
  · intro y
    have trimmed := (holds_iff x x).mp self
    rw [holds_iff, trimmed.1]
    constructor
    · rintro ⟨rfl, -⟩
      rfl
    · rintro rfl
      exact ⟨rfl, trimmed.2⟩

theorem lined_intercalate (plain : ∀ row ∈ rows, '\n' ∉ row.toList) :
    Lined rows ("\n".intercalate rows) := by
  induction rows with
  | nil => exact .nothing
  | cons row rows ih =>
    obtain ⟨first, others⟩ := List.forall_mem_cons.mp plain
    cases rows with
    | nil => exact .last first
    | cons next rows =>
      have cut : "\n".intercalate (row :: next :: rows) =
          row ++ "\n" ++ "\n".intercalate (next :: rows) := by
        simp
      rw [cut]
      exact .feed first (ih others)

theorem lined_join (plain : ∀ row ∈ rows, '\n' ∉ row.toList) :
    Lined rows (String.join (rows.map (· ++ "\n"))) := by
  induction rows with
  | nil => exact .nothing
  | cons row rows ih =>
    obtain ⟨first, others⟩ := List.forall_mem_cons.mp plain
    have cut : String.join ((row :: rows).map (· ++ "\n")) =
        row ++ "\n" ++ String.join (rows.map (· ++ "\n")) := by
      simp
    rw [cut]
    exact .feed first (ih others)

/-- **Results on lines.** From a file are read the results that are in its text. In two texts with a
line feed between them are the results of both. Every text is in lines, and however it is cut into
lines, with a carriage return before a line feed or without, with or without a line feed at its end,
the results in it are what the lines hold: neither their order nor their repetition counts, nor do
lines that hold nothing, nor the white space around what they hold. And if the results in a text are
written on lines of their own, in any order, with line feeds between or behind them, the same
results are in what is written. -/
theorem lines_alike :
    (∀ files path text, textAt files path = .ok (some text) →
      ∃ found, lines.read files path = .ok found ∧ ∀ x, x ∈ found ↔ x ∈ lines.setIn text) ∧
    (∀ a b, lines.setIn (a ++ "\n" ++ b) = lines.setIn a ∪ lines.setIn b) ∧
    (∀ text, (∃ rows, Lined rows text) ∧
      ∀ rows, Lined rows text → lines.setIn text = {x | ∃ row ∈ rows, Holds row x}) ∧
    ∀ text written, (∀ x, x ∈ written ↔ x ∈ lines.setIn text) →
      lines.setIn ("\n".intercalate written) = lines.setIn text ∧
      lines.setIn (String.join (written.map (· ++ "\n"))) = lines.setIn text := by
  refine ⟨fun files path text holds => read_of_parse holds rfl, lines_append,
    fun text => ⟨exists_lined text, fun rows lined => Set.ext (mem_lines_iff_of_lined lined)⟩, ?_⟩
  intro text written all
  have plain : ∀ row ∈ written, '\n' ∉ row.toList := fun row hrow =>
    (line_of_mem_lines ((all row).mp hrow)).1
  have back {text' : String} (lined : Lined written text') :
      lines.setIn text' = lines.setIn text := by
    ext x
    rw [mem_lines_iff_of_lined lined, ← all]
    constructor
    · rintro ⟨row, hrow, holds⟩
      rwa [((line_of_mem_lines ((all row).mp hrow)).2 x).mp holds]
    · intro hx
      exact ⟨x, hx, ((line_of_mem_lines ((all x).mp hx)).2 x).mpr rfl⟩
  exact ⟨back (lined_intercalate plain), back (lined_join plain)⟩

/-- A text with a carriage return inside a line and one at an end, with a line that holds nothing,
with white space beyond ASCII, and with a line that is repeated. -/
def seamyText : String := "a\rb\u00a0\r\n \n\u2003c\na\rb"

/-- What is found in such a text: in a file, on its lines, and when it is written out again. -/
theorem lines_alike_seams :
    textAt ⟨[(["out"], .file seamyText.toUTF8)], none⟩ "out" = .ok (some seamyText) ∧
      (∃ found, lines.read ⟨[(["out"], .file seamyText.toUTF8)], none⟩ "out" = .ok found ∧
        ∀ x, x ∈ found ↔ x ∈ lines.setIn seamyText) ∧
      lines.setIn seamyText =
        {x | ∃ row ∈ ["a\rb\u00a0", " ", "\u2003c", "a\rb"], Holds row x} ∧
      lines.setIn ("\n".intercalate ["c", "a\rb"]) = lines.setIn seamyText ∧
      lines.setIn (String.join (["c", "a\rb"].map (· ++ "\n"))) = lines.setIn seamyText := by
  obtain ⟨files, -, cuts, back⟩ := lines_alike
  have there : textAt ⟨[(["out"], .file seamyText.toUTF8)], none⟩ "out" = .ok (some seamyText) :=
    textAt_of_read (by rfl)
  have lined : Lined ["a\rb\u00a0", " ", "\u2003c", "a\rb"] seamyText :=
    .returned (by decide) (.feed (by decide) (.feed (by decide) (.last (by decide))))
  have all : ∀ x, x ∈ ["c", "a\rb"] ↔ x ∈ lines.setIn seamyText := by
    have parsed : lines.parse seamyText = some ["a\rb", "c", "a\rb"] := by decide +kernel
    intro x
    rw [mem_setIn, parsed]
    simp [or_comm]
  exact ⟨there, files _ _ _ there, (cuts seamyText).2 _ lined, back _ _ all⟩

end Reader
end OrderTrials
