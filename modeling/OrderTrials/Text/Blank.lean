/-
# White space

Splitting of text at white space. White space is the Unicode property `White_Space`, so a line
end, a tab and a no-break space all separate words. The functions work on lists of characters;
the versions on strings only wrap them.

Key definitions: `Text.isBlank`, `Text.splitAt`, `Text.words`, `Text.trim`.
Key theorems: `Text.splitAt_ne_nil`, `Text.splitAt_append`, `Text.mem_wordsOf_ne_nil`.
-/

namespace OrderTrials
namespace Text

/-- The characters with the Unicode property `White_Space`. -/
def isBlank (c : Char) : Bool :=
  let n := c.toNat
  (9 ≤ n && n ≤ 13) || n == 0x20 || n == 0x85 || n == 0xA0 || n == 0x1680 ||
    (0x2000 ≤ n && n ≤ 0x200A) || n == 0x2028 || n == 0x2029 || n == 0x202F || n == 0x205F ||
    n == 0x3000

/-- The pieces between the characters that `p` picks; always one more than such characters. -/
def splitAt (p : Char → Bool) : List Char → List (List Char)
  | [] => [[]]
  | c :: r =>
    if p c then [] :: splitAt p r
    else
      match splitAt p r with
      | [] => [[c]]
      | w :: ws => (c :: w) :: ws

theorem splitAt_ne_nil (p : Char → Bool) : ∀ s : List Char, splitAt p s ≠ []
  | [] => by simp [splitAt]
  | c :: r => by
    simp only [splitAt]
    split
    · simp
    · split <;> simp

/-- A text is cut at each character that is picked. -/
theorem splitAt_append {p : Char → Bool} {c : Char} (hc : p c = true) (a b : List Char) :
    splitAt p (a ++ c :: b) = splitAt p a ++ splitAt p b := by
  induction a with
  | nil => simp [splitAt, hc]
  | cons d a ih =>
    rw [List.cons_append, splitAt, splitAt, ih]
    split
    · rfl
    · obtain ⟨w, ws, h⟩ := List.exists_cons_of_ne_nil (splitAt_ne_nil p a)
      rw [h]
      rfl

/-- A text without a character that is picked is in one piece. -/
theorem splitAt_of_none {p : Char → Bool} {a : List Char} (h : ∀ c ∈ a, p c = false) :
    splitAt p a = [a] := by
  induction a with
  | nil => rfl
  | cons c a ih =>
    have hc : p c = false := h c List.mem_cons_self
    rw [splitAt, ih fun d hd => h d (List.mem_cons_of_mem c hd), hc]
    rfl

/-- The maximal runs of characters that are not white space, in order. -/
def wordsOf (s : List Char) : List (List Char) :=
  (splitAt isBlank s).filter (!·.isEmpty)

/-- A word is never empty. -/
theorem mem_wordsOf_ne_nil {w s : List Char} (h : w ∈ wordsOf s) : w ≠ [] := by
  have := (List.mem_filter.1 h).2
  intro e
  simp [e] at this

/-- The text without the white space at its two ends. -/
def trimBlank (s : List Char) : List Char :=
  ((s.dropWhile isBlank).reverse.dropWhile isBlank).reverse

/-- The words of a string. -/
def words (s : String) : List String :=
  (wordsOf s.toList).map String.ofList

/-- A string without the white space at its two ends. -/
def trim (s : String) : String :=
  String.ofList (trimBlank s.toList)

/-- The pieces of a string between the line feeds in it. -/
def lines (s : String) : List String :=
  (splitAt (· == '\n') s.toList).map String.ofList

end Text
end OrderTrials
