import OrderTrials.Execution.Command
import OrderTrials.Proofs.Parting
/-
# Templates that are filled in

A word of a template is a row of pieces: characters, and marks for the target and the output
(`Template.pieces`). To fill it in is to put the name of the target and the path of the output in
the place of their marks, all at once (`Template.filled`). The words of a program are made in two
passes instead, one for each mark, so that the second one also reads what the first one has put in.
The text between the passes is the word with its pieces for the output still marked
(`Template.replaced_target`). From there the second pass does what filling in does if the name has
made no new place of the mark (`Template.replaced_eq_filled`); if it has, the result has another
length (`Template.places_of_replaced_eq`).

Key definitions: `Text.places`, `Template.Piece`, `Template.pieces`, `Template.filled`,
`Template.filledWords`, `Template.Undisturbed`, `Template.PlainName`.
Key theorems: `Template.text_pieces`, `Template.pieces_append`, `Template.count_pieces`,
`Template.replaced_target`, `Template.replaced_output`, `Template.replaced_eq_filled`,
`Template.places_of_plainName`, `Template.words_filled`, `Template.words_disturbed`.
-/

namespace OrderTrials

/-! ### Places of a mark -/

namespace Text

variable {b c : Char} {m a : List Char}

/-- The number of places of a mark in a text. -/
def places (mark s : List Char) : Nat := s.tails.countP fun rest => mark.isPrefixOf rest

@[simp]
theorem places_nil (b : Char) (m : List Char) : places (b :: m) [] = 0 := rfl

theorem places_cons (mark : List Char) (c : Char) (r : List Char) :
    places mark (c :: r) = places mark r + if mark.isPrefixOf (c :: r) then 1 else 0 := by
  rw [places, List.tails_cons, List.countP_cons]
  rfl

/-- Text without the first character of a mark holds no place of it. -/
theorem places_append (absent : b ∉ a) (s : List Char) :
    places (b :: m) (a ++ s) = places (b :: m) s := by
  induction a with
  | nil => rfl
  | cons c a ih =>
    rw [List.cons_append, places_cons, List.isPrefixOf_cons_cons,
      beq_false_of_ne (List.ne_of_not_mem_cons absent), ih (List.not_mem_of_not_mem_cons absent)]
    rfl

/-- A mark whose first character does not come back in it is one place of itself. -/
theorem places_mark (absent : b ∉ m) (s : List Char) :
    places (b :: m) ((b :: m) ++ s) = places (b :: m) s + 1 := by
  rw [List.cons_append, places_cons, places_append absent, ← List.cons_append,
    if_pos (List.isPrefixOf_iff_prefix.mpr (List.prefix_append _ s))]

/-! ### One pass -/

variable {new : List Char}

theorem replacedChars_cons {mark : List Char} {r : List Char}
    (none : mark.isPrefixOf (c :: r) = false) :
    replacedChars mark new 0 (c :: r) = c :: replacedChars mark new 0 r := by
  rw [replacedChars, none]
  rfl

theorem replacedChars_skip (mark new a s : List Char) :
    replacedChars mark new a.length (a ++ s) = replacedChars mark new 0 s := by
  induction a with
  | nil => rfl
  | cons c a ih => exact ih

theorem replacedChars_mark (b : Char) (m new s : List Char) :
    replacedChars (b :: m) new 0 ((b :: m) ++ s) = new ++ replacedChars (b :: m) new 0 s := by
  rw [List.cons_append, replacedChars, ← List.cons_append,
    if_pos (List.isPrefixOf_iff_prefix.mpr (List.prefix_append _ s))]
  exact congrArg (new ++ ·) (replacedChars_skip (b :: m) new m s)

/-- Text without the first character of a mark stays as it is. -/
theorem replacedChars_append (absent : b ∉ a) (s : List Char) :
    replacedChars (b :: m) new 0 (a ++ s) = a ++ replacedChars (b :: m) new 0 s := by
  induction a with
  | nil => rfl
  | cons c a ih =>
    have none : (b :: m).isPrefixOf (c :: (a ++ s)) = false := by
      rw [List.isPrefixOf_cons_cons, beq_false_of_ne (List.ne_of_not_mem_cons absent)]
      rfl
    rw [List.cons_append, replacedChars_cons none, ih (List.not_mem_of_not_mem_cons absent),
      List.cons_append]

end Text

namespace Template

open Text (places places_cons places_append places_mark replacedChars replacedChars_cons
  replacedChars_skip replacedChars_mark replacedChars_append)

/-! ### Pieces of a word -/

/-- A piece of a word of a template. -/
inductive Piece where
  | letter (c : Char)
  | target
  | output
deriving DecidableEq

/-- The text that a piece becomes. -/
def Piece.text (name output : List Char) : Piece → List Char
  | .letter c => [c]
  | .target => name
  | .output => output

/-- The text that pieces become. -/
def fill (name output : List Char) (ps : List Piece) : List Char :=
  ps.flatMap (Piece.text name output)

@[simp]
theorem fill_cons (name output : List Char) (p : Piece) (ps : List Piece) :
    fill name output (p :: ps) = p.text name output ++ fill name output ps := rfl

/-- The pieces of a word, from the left on. The number says how many characters of a mark that was
just read are still to be left out. -/
def pieces : Nat → List Char → List Piece
  | _, [] => []
  | skip + 1, _ :: r => pieces skip r
  | 0, c :: r =>
    if targetMark.toList.isPrefixOf (c :: r) then
      .target :: pieces (targetMark.toList.length - 1) r
    else if outputMark.toList.isPrefixOf (c :: r) then
      .output :: pieces (outputMark.toList.length - 1) r
    else .letter c :: pieces 0 r

/-- A word with the name of the target and the path of the output in the place of their marks. -/
def filled (name output word : String) : String :=
  String.ofList (fill name.toList output.toList (pieces 0 word.toList))

theorem toList_targetMark :
    targetMark.toList = '\x7b' :: ['t', 'a', 'r', 'g', 'e', 't', '\x7d'] := by decide

theorem toList_outputMark :
    outputMark.toList = '\x7b' :: ['o', 'u', 't', 'p', 'u', 't', '\x7d'] := by decide

theorem pieces_target (s : List Char) :
    pieces 0 (targetMark.toList ++ s) = .target :: pieces 0 s := by
  rw [toList_targetMark, List.cons_append, pieces, toList_targetMark]
  simp [pieces]

theorem pieces_output (s : List Char) :
    pieces 0 (outputMark.toList ++ s) = .output :: pieces 0 s := by
  rw [toList_outputMark, List.cons_append, pieces, toList_targetMark, toList_outputMark]
  simp [pieces]

theorem pieces_letter {c : Char} {r : List Char}
    (target : targetMark.toList.isPrefixOf (c :: r) = false)
    (output : outputMark.toList.isPrefixOf (c :: r) = false) :
    pieces 0 (c :: r) = .letter c :: pieces 0 r := by
  rw [pieces, target, output]
  rfl

/-- Every word is empty, or begins with a mark or else with a character. -/
theorem word_induction {P : List Char → Prop} (nil : P [])
    (target : ∀ r, P r → P (targetMark.toList ++ r))
    (output : ∀ r, P r → P (outputMark.toList ++ r))
    (letter : ∀ c r, targetMark.toList.isPrefixOf (c :: r) = false →
      outputMark.toList.isPrefixOf (c :: r) = false → P r → P (c :: r)) (word : List Char) :
    P word := by
  induction length : word.length using Nat.strong_induction_on generalizing word with
  | _ n ih =>
    subst length
    cases word with
    | nil => exact nil
    | cons c r =>
      cases isTarget : targetMark.toList.isPrefixOf (c :: r) with
      | true =>
        obtain ⟨s, same⟩ := List.isPrefixOf_iff_prefix.mp isTarget
        rw [← same] at ih ⊢
        refine target s (ih s.length ?_ s rfl)
        rw [List.length_append, toList_targetMark]
        simp
      | false =>
        cases isOutput : outputMark.toList.isPrefixOf (c :: r) with
        | true =>
          obtain ⟨s, same⟩ := List.isPrefixOf_iff_prefix.mp isOutput
          rw [← same] at ih ⊢
          refine output s (ih s.length ?_ s rfl)
          rw [List.length_append, toList_outputMark]
          simp
        | false => exact letter c r isTarget isOutput (ih r.length (by simp) r rfl)

/-- **Pieces cut a word up:** the marks and characters that they stand for make the word. -/
theorem text_pieces (word : List Char) :
    fill targetMark.toList outputMark.toList (pieces 0 word) = word := by
  induction word using word_induction with
  | nil => rfl
  | target r ih => rw [pieces_target, fill_cons, ih]; rfl
  | output r ih => rw [pieces_output, fill_cons, ih]; rfl
  | letter c r target output ih => rw [pieces_letter target output, fill_cons, ih]; rfl

/-- No mark reaches past an opening brace that follows it. -/
theorem prefix_of_append {mark a x : List Char} (once : '\x7b' ∉ mark.tail) (ha : a ≠ [])
    (h : mark <+: a ++ '\x7b' :: x) : mark <+: a := by
  rcases List.prefix_or_prefix_of_prefix h (List.prefix_append a _) with inside | past
  · exact inside
  · obtain ⟨left, rfl⟩ := past
    cases left with
    | nil => exact (List.append_nil a).symm ▸ List.prefix_refl a
    | cons c left =>
      obtain ⟨rfl, -⟩ := List.cons_prefix_cons.mp ((List.prefix_append_right_inj a).mp h)
      rw [List.tail_append_of_ne_nil ha] at once
      exact absurd (List.mem_append_right _ List.mem_cons_self) once

/-- **A word is split at its marks:** what stands before an opening brace is cut up alone. -/
theorem pieces_append (a x : List Char) :
    pieces 0 (a ++ '\x7b' :: x) = pieces 0 a ++ pieces 0 ('\x7b' :: x) := by
  induction a using word_induction with
  | nil => rfl
  | target r ih => rw [List.append_assoc, pieces_target, pieces_target, ih, List.cons_append]
  | output r ih => rw [List.append_assoc, pieces_output, pieces_output, ih, List.cons_append]
  | letter c r target output ih =>
    have still {mark : List Char} (once : '\x7b' ∉ mark.tail)
        (none : mark.isPrefixOf (c :: r) = false) :
        mark.isPrefixOf (c :: (r ++ '\x7b' :: x)) = false := by
      rw [Bool.eq_false_iff, ne_eq, List.isPrefixOf_iff_prefix] at none ⊢
      exact fun starts => none (prefix_of_append once (List.cons_ne_nil c r) starts)
    rw [pieces_letter target output, List.cons_append, List.cons_append, ← ih]
    exact pieces_letter (still (by rw [toList_targetMark]; decide) target)
      (still (by rw [toList_outputMark]; decide) output)

theorem pieces_append_target (a b : List Char) :
    pieces 0 (a ++ (targetMark.toList ++ b)) = pieces 0 a ++ .target :: pieces 0 b := by
  rw [← pieces_target, toList_targetMark]
  exact pieces_append a _

theorem pieces_append_output (a b : List Char) :
    pieces 0 (a ++ (outputMark.toList ++ b)) = pieces 0 a ++ .output :: pieces 0 b := by
  rw [← pieces_output, toList_outputMark]
  exact pieces_append a _

/-- A mark is no place of the other one. -/
theorem places_output_target (s : List Char) :
    places outputMark.toList (targetMark.toList ++ s) = places outputMark.toList s := by
  rw [toList_outputMark, toList_targetMark, List.cons_append, places_cons,
    places_append (by decide)]
  simp

theorem places_target_output (s : List Char) :
    places targetMark.toList (outputMark.toList ++ s) = places targetMark.toList s := by
  rw [toList_outputMark, toList_targetMark, List.cons_append, places_cons,
    places_append (by decide)]
  simp

theorem places_output (s : List Char) :
    places outputMark.toList (outputMark.toList ++ s) = places outputMark.toList s + 1 := by
  rw [toList_outputMark]
  exact places_mark (by decide) s

theorem places_target (s : List Char) :
    places targetMark.toList (targetMark.toList ++ s) = places targetMark.toList s + 1 := by
  rw [toList_targetMark]
  exact places_mark (by decide) s

/-- A mark stays as it is in a pass for the other one. -/
theorem replaced_target_output (new s : List Char) :
    replacedChars targetMark.toList new 0 (outputMark.toList ++ s) =
      outputMark.toList ++ replacedChars targetMark.toList new 0 s := by
  have none : targetMark.toList.isPrefixOf (outputMark.toList ++ s) = false := by
    rw [toList_targetMark, toList_outputMark]
    rfl
  rw [toList_outputMark, List.cons_append] at none ⊢
  rw [replacedChars_cons none, toList_targetMark, replacedChars_append (by decide)]
  rfl

theorem replaced_output_target (new s : List Char) :
    replacedChars outputMark.toList new 0 (targetMark.toList ++ s) =
      targetMark.toList ++ replacedChars outputMark.toList new 0 s := by
  have none : outputMark.toList.isPrefixOf (targetMark.toList ++ s) = false := by
    rw [toList_targetMark, toList_outputMark]
    rfl
  rw [toList_targetMark, List.cons_append] at none ⊢
  rw [replacedChars_cons none, toList_outputMark, replacedChars_append (by decide)]
  rfl

theorem replaced_output_output (new s : List Char) :
    replacedChars outputMark.toList new 0 (outputMark.toList ++ s) =
      new ++ replacedChars outputMark.toList new 0 s := by
  rw [toList_outputMark]
  exact replacedChars_mark _ _ new s

/-- **Every place of a mark is a piece.** -/
theorem count_pieces (word : List Char) :
    (pieces 0 word).count .target = places targetMark.toList word ∧
      (pieces 0 word).count .output = places outputMark.toList word := by
  induction word using word_induction with
  | nil => exact ⟨rfl, rfl⟩
  | target r ih =>
    simp [pieces_target, ih, places_target, places_output_target]
  | output r ih =>
    simp [pieces_output, ih, places_output, places_target_output]
  | letter c r target output ih =>
    simp [pieces_letter target output, ih, places_cons, target, output]

/-! ### The two passes -/

/-- **After the first pass** the names are in, and the places for the output are still marked. -/
theorem replaced_target (name word : List Char) :
    replacedChars targetMark.toList name 0 word =
      fill name outputMark.toList (pieces 0 word) := by
  induction word using word_induction with
  | nil => rfl
  | target r ih =>
    rw [pieces_target, fill_cons, ← ih, toList_targetMark]
    exact replacedChars_mark _ _ name r
  | output r ih =>
    rw [pieces_output, fill_cons, ← ih]
    exact replaced_target_output name r
  | letter c r target output ih =>
    rw [pieces_letter target output, fill_cons, ← ih, replacedChars_cons target]
    rfl

/-- Characters in front, of which none begins a place of the mark for the output that counts. -/
theorem replaced_front (new front s : List Char) :
    places outputMark.toList s ≤ places outputMark.toList (front ++ s) ∧
      (places outputMark.toList (front ++ s) = places outputMark.toList s →
        replacedChars outputMark.toList new 0 (front ++ s) =
          front ++ replacedChars outputMark.toList new 0 s) := by
  induction front with
  | nil => exact ⟨Nat.le_refl _, fun _ => rfl⟩
  | cons c front ih =>
    rw [List.cons_append, places_cons]
    cases starts : outputMark.toList.isPrefixOf (c :: (front ++ s)) with
    | true => exact ⟨by simp; omega, fun same => by simp at same; omega⟩
    | false =>
      refine ⟨by simpa using ih.1, fun same => ?_⟩
      rw [replacedChars_cons starts, ih.2 (by simpa using same), List.cons_append]

/-- Only a piece for the output depends on the output. -/
theorem Piece.text_of_ne {p : Piece} (other : p ≠ .output) (name output new : List Char) :
    p.text name output = p.text name new := by
  cases p with
  | letter c => rfl
  | target => rfl
  | output => exact absurd rfl other

/-- **The second pass** finds the pieces for the output, and does what filling in does if it finds
no other place. -/
theorem replaced_output (name new : List Char) (ps : List Piece) :
    ps.count .output ≤ places outputMark.toList (fill name outputMark.toList ps) ∧
      (places outputMark.toList (fill name outputMark.toList ps) = ps.count .output →
        replacedChars outputMark.toList new 0 (fill name outputMark.toList ps) =
          fill name new ps) := by
  induction ps with
  | nil => exact ⟨Nat.le_refl _, fun _ => rfl⟩
  | cons p ps ih =>
    obtain ⟨atLeast, agrees⟩ := ih
    by_cases marked : p = .output
    · subst marked
      simp only [fill_cons, Piece.text, List.count_cons_self, places_output]
      refine ⟨by omega, fun same => ?_⟩
      rw [replaced_output_output, agrees (by omega)]
    · obtain ⟨more, passes⟩ := replaced_front new (p.text name outputMark.toList)
        (fill name outputMark.toList ps)
      rw [List.count_cons_of_ne marked, fill_cons, fill_cons]
      refine ⟨by omega, fun same => ?_⟩
      rw [passes (by omega), agrees (by omega), Piece.text_of_ne marked]

theorem length_outputMark : outputMark.toList.length = 8 := by decide

/-- Each place that is replaced changes the length of a text. -/
theorem length_replaced_output (new s : List Char) :
    (replacedChars outputMark.toList new 0 s).length + places outputMark.toList s * 8 =
      s.length + places outputMark.toList s * new.length := by
  induction s using word_induction with
  | nil => simp [replacedChars, toList_outputMark]
  | target r ih =>
    rw [replaced_output_target, places_output_target, List.length_append, List.length_append]
    omega
  | output r ih =>
    rw [replaced_output_output, places_output, List.length_append, List.length_append,
      length_outputMark, Nat.add_mul, Nat.add_mul]
    omega
  | letter c r target output ih =>
    rw [replacedChars_cons output, places_cons, output]
    simp only [List.length_cons, Bool.false_eq_true, if_false, Nat.add_zero]
    omega

/-- So does each piece for the output that is filled in. -/
theorem length_fill (name new : List Char) (ps : List Piece) :
    (fill name new ps).length + ps.count .output * 8 =
      (fill name outputMark.toList ps).length + ps.count .output * new.length := by
  induction ps with
  | nil => simp [fill]
  | cons p ps ih =>
    rw [fill_cons, fill_cons, List.length_append, List.length_append]
    by_cases marked : p = .output
    · subst marked
      simp only [Piece.text, List.count_cons_self, Nat.add_mul, length_outputMark]
      omega
    · rw [List.count_cons_of_ne marked, Piece.text_of_ne marked name new outputMark.toList]
      omega

variable {name output word : String}

/-- **The two passes fill a word in** if the first one makes no new place of the mark for the
output, -/
theorem replaced_eq_filled
    (same : places outputMark.toList (Text.replaced targetMark name word).toList =
      places outputMark.toList word.toList) :
    Text.replaced outputMark output (Text.replaced targetMark name word) =
      filled name output word := by
  rw [Text.replaced, String.toList_ofList, replaced_target, ← (count_pieces word.toList).2] at same
  rw [Text.replaced, Text.replaced, String.toList_ofList, filled, replaced_target]
  exact congrArg String.ofList ((replaced_output _ _ _).2 same)

/-- and only then, because any other place changes the length. -/
theorem places_of_replaced_eq (length : output.toList.length ≠ 8)
    (same : Text.replaced outputMark output (Text.replaced targetMark name word) =
      filled name output word) :
    places outputMark.toList (Text.replaced targetMark name word).toList =
      places outputMark.toList word.toList := by
  rw [Text.replaced, Text.replaced, String.toList_ofList, filled, replaced_target] at same
  rw [Text.replaced, String.toList_ofList, replaced_target, ← (count_pieces word.toList).2]
  generalize pieces 0 word.toList = ps at same ⊢
  have passed := length_replaced_output output.toList (fill name.toList outputMark.toList ps)
  have whole := length_fill name.toList output.toList ps
  have atLeast := (replaced_output name.toList output.toList ps).1
  obtain ⟨more, found⟩ := Nat.exists_eq_add_of_le atLeast
  rw [String.ofList_injective same, found, Nat.add_mul, Nat.add_mul] at passed
  have balanced : more * 8 = more * output.toList.length := by omega
  rcases Nat.eq_zero_or_pos more with none | some
  · rw [found, none, Nat.add_zero]
  · exact absurd (Nat.eq_of_mul_eq_mul_left some balanced).symm length

/-! ### Names that are passed on in every template -/

/-- A name without braces that has a character which is not in the mark for the output. -/
structure PlainName (name : String) : Prop where
  noOpening : '\x7b' ∉ name.toList
  noClosing : '\x7d' ∉ name.toList
  foreign : ∃ c ∈ name.toList, c ∉ outputMark.toList

/-- What is left of the mark in front of a filled word was there before the name was put in. -/
theorem prefix_of_fill {name : String} (plain : PlainName name) {rest word : List Char}
    (left : rest <:+ outputMark.toList.tail)
    (h : rest <+: fill name.toList outputMark.toList (pieces 0 word)) : rest <+: word := by
  have closing : ∀ rest ∈ outputMark.toList.tail.tails, rest ≠ [] → '\x7d' ∈ rest := by
    rw [toList_outputMark]
    decide
  have opening : '\x7b' ∉ outputMark.toList.tail := by
    rw [toList_outputMark]
    decide
  induction word using word_induction generalizing rest with
  | nil => exact h
  | target r ih =>
    by_cases empty : rest = []
    · exact empty ▸ List.nil_prefix
    have ends := closing rest ((List.mem_tails _ _).mpr left) empty
    rw [pieces_target, fill_cons] at h
    -- the mark would have to end in the name, or to go past all of it
    rcases List.prefix_or_prefix_of_prefix h (List.prefix_append _ _) with inside | past
    · exact absurd (inside.subset ends) plain.noClosing
    · obtain ⟨c, hc, foreign⟩ := plain.foreign
      exact absurd (List.mem_of_mem_tail (left.subset (past.subset hc))) foreign
  | output r ih =>
    cases rest with
    | nil => exact List.nil_prefix
    | cons c rest =>
      rw [pieces_output, fill_cons, Piece.text, toList_outputMark, List.cons_append,
        List.cons_prefix_cons] at h
      exact absurd (h.1 ▸ left.subset List.mem_cons_self) opening
  | letter c r target output ih =>
    cases rest with
    | nil => exact List.nil_prefix
    | cons b rest =>
      rw [pieces_letter target output] at h
      obtain ⟨rfl, later⟩ := List.cons_prefix_cons.mp h
      exact List.cons_prefix_cons.mpr
        ⟨rfl, ih ((List.suffix_cons _ _).trans left) later⟩

/-- **A plain name makes no new place of the mark for the output,** in whatever word. -/
theorem places_of_plainName {name : String} (plain : PlainName name) (word : List Char) :
    places outputMark.toList (replacedChars targetMark.toList name.toList 0 word) =
      places outputMark.toList word := by
  rw [replaced_target]
  induction word using word_induction with
  | nil => rfl
  | target r ih =>
    rw [pieces_target, fill_cons, places_output_target, ← ih, toList_outputMark]
    exact places_append plain.noOpening _
  | output r ih =>
    rw [pieces_output, fill_cons, places_output, ← ih]
    exact places_output _
  | letter c r target output ih =>
    have none : outputMark.toList.isPrefixOf
        (c :: fill name.toList outputMark.toList (pieces 0 r)) = false := by
      rw [Bool.eq_false_iff, ne_eq, List.isPrefixOf_iff_prefix]
      intro starts
      have before : outputMark.toList <+: c :: r := by
        rw [toList_outputMark] at starts ⊢
        obtain ⟨same, later⟩ := List.cons_prefix_cons.mp starts
        rw [← toList_outputMark] at later
        exact List.cons_prefix_cons.mpr
          ⟨same, prefix_of_fill plain (by rw [toList_outputMark]; exact List.suffix_refl _) later⟩
      exact absurd (List.isPrefixOf_iff_prefix.mpr before) (by simp [output])
    rw [pieces_letter target output, fill_cons, Piece.text, List.cons_append, List.nil_append,
      places_cons, places_cons, none, output, ih]

/-! ### The words of a program -/

variable {t : Template} {s : Space} {job : Job}

/-- The words that a word of the template becomes when it is filled in. -/
def filledWordsOf (s : Space) (job : Job) (output word : String) : List String :=
  if word = configurationMark then job.configuration.arguments s
  else [filled job.target.name output word]

/-- The words of the program for a job when the template is filled in. -/
def filledWords (t : Template) (s : Space) (job : Job) (output : String) : List String :=
  t.command.flatMap (filledWordsOf s job output)

/-- The name of a target makes no new place of the mark for the output in the words of a
template. -/
def Undisturbed (t : Template) (name : String) : Prop :=
  ∀ word ∈ t.command, word ≠ configurationMark →
    places outputMark.toList (Text.replaced targetMark name word).toList =
      places outputMark.toList word.toList

theorem eq_of_flatMap_eq {α β : Type} {f g : α → List β} {l : List α}
    (lengths : ∀ a ∈ l, (f a).length = (g a).length) (h : l.flatMap f = l.flatMap g) :
    ∀ a ∈ l, f a = g a := by
  induction l with
  | nil => nofun
  | cons a l ih =>
    obtain ⟨length, lengths⟩ := List.forall_mem_cons.mp lengths
    rw [List.flatMap_cons, List.flatMap_cons] at h
    obtain ⟨first, rest⟩ := List.append_inj h length
    exact List.forall_mem_cons.mpr ⟨first, ih lengths rest⟩

theorem length_outputPath (job : Job) (folder : String) :
    8 < (job.outputPath folder).toList.length := by
  have name : 8 < (job.configuration.fingerprint ++ ".out").toList.length := by
    rw [String.toList_append, List.length_append, Configuration.fingerprint, Digest.length_hex]
    omega
  rw [Job.outputPath, Path.join]
  split
  · exact name
  · split <;> simp only [String.toList_append, List.length_append] at name ⊢ <;> omega

theorem words_eq_filledWords (h : t.Undisturbed job.target.name) (s : Space) (output : String) :
    t.words s job output = t.filledWords s job output := by
  refine List.flatMap_congr fun word hw => ?_
  unfold wordsOf filledWordsOf
  split
  · rfl
  · rename_i other
    rw [replaced_eq_filled (h word hw other)]

theorem undisturbed_of_words_eq {folder : String}
    (same : t.words s job (job.outputPath folder) = t.filledWords s job (job.outputPath folder)) :
    t.Undisturbed job.target.name := by
  have lengths : ∀ word ∈ t.command, (wordsOf s job (job.outputPath folder) word).length =
      (filledWordsOf s job (job.outputPath folder) word).length := by
    intro word _
    unfold wordsOf filledWordsOf
    split
    · rfl
    · rw [List.length_singleton, List.length_singleton]
  intro word hw other
  have alike := eq_of_flatMap_eq lengths same word hw
  rw [wordsOf, filledWordsOf, if_neg other, if_neg other] at alike
  exact places_of_replaced_eq (length_outputPath job folder).ne' (List.singleton_inj.mp alike)

/-- **When a template is filled in.** The words of the program are the words of the template, filled
in with the name of the target and the path of the output all at once, and the arguments of the
configuration in the place of a word that is its mark, if the name makes no new place of the mark
for the output, and for the path of the output of the job only then. A name without braces, and with
a character that is not in this mark, never makes one, and is then passed on as it is. -/
theorem words_filled (t : Template) (s : Space) (job : Job) :
    (t.Undisturbed job.target.name →
      ∀ output, t.words s job output = t.filledWords s job output) ∧
    (∀ folder, t.words s job (job.outputPath folder) = t.filledWords s job (job.outputPath folder) →
      t.Undisturbed job.target.name) ∧
    (PlainName job.target.name → t.Undisturbed job.target.name) := by
  refine ⟨fun h => words_eq_filledWords h s, fun folder => undisturbed_of_words_eq,
    fun plain word _ _ => ?_⟩
  rw [Text.replaced, String.toList_ofList]
  exact places_of_plainName plain word.toList

/-- A job on a target with some name. -/
def jobOn (name : String) : Job := ⟨⟨Table.empty.insert "k" ⟨"k", "A"⟩, none⟩, ⟨name⟩⟩

/-- A template that tells the program where its output goes and what its target is. -/
def tellingTemplate : Template :=
  ⟨["sh", "--out=\x7boutput\x7d", "\x7bconfig\x7d", "\x7b\x7btarget\x7d\x7d"], none, 1000⟩

theorem words_filled_telling :
    PlainName "app.jar" ∧ tellingTemplate.words Comparison.stairsSpace (jobOn "app.jar") "w/a.out" =
      ["sh", "--out=w/a.out", "\x7bapp.jar\x7d"] := by
  have plain : PlainName "app.jar" :=
    ⟨by decide +kernel, by decide +kernel, '.', by decide +kernel, by decide +kernel⟩
  obtain ⟨fills, -, passes⟩ :=
    words_filled tellingTemplate Comparison.stairsSpace (jobOn "app.jar")
  exact ⟨plain, (fills (passes plain) "w/a.out").trans (by decide +kernel)⟩

/-- **Names that are rewritten.** A target that is called like the mark for the output is not passed
on, but the path of the output is. So it is with a target `output` if the template has braces around
the mark for the target. -/
theorem words_disturbed :
    let echo : Template := ⟨["printf", "%s", "\x7btarget\x7d"], none, 1000⟩
    echo.words Comparison.stairsSpace (jobOn "\x7boutput\x7d") "w/a.out" =
        ["printf", "%s", "w/a.out"] ∧
      echo.filledWords Comparison.stairsSpace (jobOn "\x7boutput\x7d") "w/a.out" =
        ["printf", "%s", "\x7boutput\x7d"] ∧
      tellingTemplate.words Comparison.stairsSpace (jobOn "output") "w/a.out" =
        ["sh", "--out=w/a.out", "w/a.out"] ∧
      tellingTemplate.filledWords Comparison.stairsSpace (jobOn "output") "w/a.out" =
        ["sh", "--out=w/a.out", "\x7boutput\x7d"] := by
  decide +kernel

end Template
end OrderTrials
