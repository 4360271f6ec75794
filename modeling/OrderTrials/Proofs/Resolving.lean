import OrderTrials.Proofs.Listing
/-
# Levels in normal form

A text names a level in three steps: by exactly the name of a registered level, by such a name up to
case, and as an integer, which is written anew. Doing this again to the name of the level that was
found changes nothing (`Dimension.Normal.level_name`). A registered name is found in the first step. A
canonical numeral has no letters, so only the level of this very name can be found for it, and
otherwise it is read back to its integer. So the levels that are named at all are those in normal
form (`Dimension.exists_level_iff`), and every question about them is answered.

Key definitions: `Dimension.Covers`, `Dimension.Normal`.
Key theorems: `Text.isAlpha_of_readSigned`, `Dimension.level_eq_ok_iff`,
`Dimension.Normal.level_name`, `Dimension.exists_level_iff`, `Dimension.Normal.knows`,
`Dimension.level_normal`.
-/

namespace OrderTrials

/-! ### Letters -/

namespace Text

theorem isAlpha_iff (c : Char) :
    c.isAlpha = true ↔ 65 ≤ c.toNat ∧ c.toNat ≤ 90 ∨ 97 ≤ c.toNat ∧ c.toNat ≤ 122 := by
  change (decide (c.val ≥ 'A'.val ∧ c.val ≤ 'Z'.val) ||
    (decide (c.val ≥ 'a'.val) && decide (c.val ≤ 'z'.val))) = true ↔ _
  rw [Bool.or_eq_true, Bool.and_eq_true, decide_eq_true_iff, decide_eq_true_iff,
    decide_eq_true_iff]
  exact Iff.rfl

theorem toNat_toLower (c : Char) :
    c.toLower.toNat = if 65 ≤ c.toNat ∧ c.toNat ≤ 90 then c.toNat + 32 else c.toNat := by
  by_cases upper : 65 ≤ c.toNat ∧ c.toNat ≤ 90
  · have value : c.toLower.toNat = (c.val + ('a'.val - 'A'.val)).toNat :=
      congrArg Char.toNat (dif_pos upper)
    have sum : (c.val + ('a'.val - 'A'.val)).toNat = (c.toNat + 32) % 2 ^ 32 :=
      UInt32.toNat_add _ _
    rw [if_pos upper, value, sum]
    omega
  · have unchanged : c.toLower = c := dif_neg upper
    rw [if_neg upper, unchanged]

theorem toLower_of_plain {c : Char} (plain : c.isAlpha = false) : c.toLower = c := by
  rw [Bool.eq_false_iff, Ne, isAlpha_iff] at plain
  refine Char.toNat_inj.mp ?_
  rw [toNat_toLower, if_neg fun upper => plain (.inl upper)]

/-- What a letter becomes is a letter. -/
theorem eq_of_toLower {c e : Char} (plain : e.isAlpha = false) (h : c.toLower = e) : c = e := by
  rw [Bool.eq_false_iff, Ne, isAlpha_iff] at plain
  have value := toNat_toLower c
  rw [h] at value
  refine Char.toNat_inj.mp ?_
  split at value <;> omega

/-- A numeral has no letters. -/
theorem isAlpha_of_readSigned {n : Int} {w : String} (h : readSigned w = some n) :
    ∀ c ∈ w.toList, c.isAlpha = false := by
  have plain {digits : List Char} (h : IsDigits digits) : ∀ c ∈ digits, c.isAlpha = false := by
    intro c hc
    have isDigit := h.2 c hc
    simp only [Char.isDigit, Bool.and_eq_true, decide_eq_true_eq] at isDigit
    have low : 48 ≤ c.toNat := isDigit.1
    have high : c.toNat ≤ 57 := isDigit.2
    rw [Bool.eq_false_iff, Ne, isAlpha_iff]
    omega
  have denotes := ((readSigned_eq_some_iff w n).mp h).1
  generalize w.toList = s at denotes
  cases denotes with
  | unsigned digits => exact plain digits
  | plus digits => exact List.forall_mem_cons.mpr ⟨by decide, plain digits⟩
  | minus digits => exact List.forall_mem_cons.mpr ⟨by decide, plain digits⟩

end Text

namespace Dimension

variable {d : Dimension} {l l' : Level} {raw name : String} {v : Int}

/-! ### What a text names -/

/-- The words within the bounds. A bound that is missing is that of the words. -/
def Covers (d : Dimension) (v : Int) : Prop :=
  Text.isSignedWord v = true ∧ d.range.1 ≤ v ∧ v ≤ d.range.2

/-- What is taken is a word within the bounds. -/
theorem WellFormed.covers (h : d.WellFormed) (taken : d.Takes v) : d.Covers v := by
  obtain ⟨least, greatest, hl, hg, lower, upper⟩ := taken
  obtain ⟨-, low, -, high⟩ := h.bounds least greatest hl hg
  have word : Text.isSignedWord v = true := by
    rw [Text.isSignedWord, Bool.and_eq_true, decide_eq_true_eq, decide_eq_true_eq]
    exact ⟨Int.le_trans low lower, Int.le_trans upper high⟩
  rw [Covers, range, hl, hg]
  exact ⟨word, lower, upper⟩

/-- A registered level is named by exactly its name. -/
theorem registered?_of_mem (h : name ∈ d.levels) : d.registered? name = some name := by
  have found : d.levels.find? (· == name) = some name := by
    cases hfind : d.levels.find? (· == name) with
    | none => exact absurd (List.find?_eq_none.mp hfind name h) (by simp)
    | some other =>
      have same := List.find?_some hfind
      rw [beq_iff_eq.mp same]
  rw [registered?, found, Option.some_or]

/-- A text without letters is the only one that is equal to it up to case. -/
theorem eq_of_sameLetters (plain : ∀ c ∈ raw.toList, c.isAlpha = false)
    (h : sameLetters name raw = true) : name = raw := by
  have letters (as bs : List Char) (plain : ∀ c ∈ bs, c.isAlpha = false)
      (h : as.map Char.toLower = bs.map Char.toLower) : as = bs := by
    induction as generalizing bs with
    | nil => exact (List.map_eq_nil_iff.mp h.symm).symm
    | cons a as ih =>
      cases bs with
      | nil => cases h
      | cons b bs =>
        obtain ⟨first, rest⟩ := List.cons.inj h
        have letter := plain b List.mem_cons_self
        rw [Text.toLower_of_plain letter] at first
        rw [Text.eq_of_toLower letter first,
          ih bs (fun c hc => plain c (List.mem_cons_of_mem b hc)) rest]
  exact String.toList_injective (letters _ _ plain (beq_iff_eq.mp h))

theorem mem_of_registered? (h : d.registered? raw = some name) : name ∈ d.levels := by
  rcases Option.or_eq_some_iff.mp h with found | ⟨-, found⟩ <;>
    exact List.mem_of_find?_eq_some found

/-- A name that is found is that of the text, up to case. -/
theorem sameLetters_of_registered? (h : d.registered? raw = some name) :
    sameLetters name raw = true := by
  rcases Option.or_eq_some_iff.mp h with found | ⟨-, found⟩
  · have equal := List.find?_some found
    rw [beq_iff_eq.mp equal, sameLetters, beq_self_eq_true]
  · have same := List.find?_some found
    exact same

theorem registered?_eq_none (other : ∀ name ∈ d.levels, sameLetters name raw = false) :
    d.registered? raw = none := by
  cases h : d.registered? raw with
  | none => rfl
  | some name =>
    have same := sameLetters_of_registered? h
    rw [other name (mem_of_registered? h)] at same
    cases same

/-- **The level that a text names** is a registered one if there is one to be found, and otherwise an
integer of the bounds, under its canonical numeral. -/
theorem level_eq_ok_iff (d : Dimension) (raw : String) (l : Level) :
    d.level raw = .ok l ↔ l.option = d.name ∧ (d.registered? raw = some l.name ∨
      d.registered? raw = none ∧ d.isInteger = true ∧
        ∃ v, Text.Denotes raw.toList v ∧ d.Covers v ∧ l.name = Text.showInteger v) := by
  constructor
  · intro h
    unfold level at h
    split at h
    · rename_i found
      obtain rfl := Except.ok.inj h
      exact ⟨rfl, .inl found⟩
    · rename_i none
      split at h
      · rename_i integer
        split at h
        · rename_i v read
          split at h
          · cases h
          · rename_i within
            obtain rfl := Except.ok.inj h
            obtain ⟨denotes, word⟩ := (Text.readSigned_eq_some_iff raw v).mp read
            simp only [Bool.or_eq_true, decide_eq_true_eq, not_or, Int.not_lt] at within
            exact ⟨rfl, .inr ⟨none, integer, v, denotes, ⟨word, within⟩, rfl⟩⟩
        · split at h <;> cases h
      · cases h
  · obtain ⟨option, name⟩ := l
    rintro ⟨rfl, found | ⟨none, integer, v, denotes, ⟨word, lower, upper⟩, rfl⟩⟩
    · rw [level, found]
    · have read := (Text.readSigned_eq_some_iff raw v).mpr ⟨denotes, word⟩
      have within : (decide (v < d.range.1) || decide (d.range.2 < v)) = false := by
        simp only [Bool.or_eq_false_iff, decide_eq_false_iff_not, Int.not_lt]
        exact ⟨lower, upper⟩
      rw [level, none]
      dsimp only
      rw [if_pos integer, read]
      dsimp only
      rw [within]
      rfl

/-! ### Normal forms -/

/-- The levels in normal form: the registered ones, and on a dimension of integers those of the
bounds, under their canonical numerals. -/
def Normal (d : Dimension) (l : Level) : Prop :=
  l.option = d.name ∧
    (l.name ∈ d.levels ∨ d.isInteger = true ∧ ∃ v, d.Covers v ∧ l.name = Text.showInteger v)

/-- A numeral is found among the registered names only if it is one of them. -/
theorem registered?_numeral (read : Text.readSigned raw = some v)
    (h : d.registered? raw = some name) : name = raw :=
  eq_of_sameLetters (Text.isAlpha_of_readSigned read) (sameLetters_of_registered? h)

/-- **A level in normal form is named by its own name.** -/
theorem Normal.level_name (h : d.Normal l) : d.level l.name = .ok l := by
  obtain ⟨own, registered | ⟨integer, v, covers, shown⟩⟩ := h
  · exact (d.level_eq_ok_iff l.name l).mpr ⟨own, .inl (registered?_of_mem registered)⟩
  · have read : Text.readSigned l.name = some v := shown ▸ Text.readSigned_showInteger covers.1
    refine (d.level_eq_ok_iff l.name l).mpr ⟨own, ?_⟩
    cases found : d.registered? l.name with
    | some name => exact .inl (congrArg some (registered?_numeral read found))
    | none =>
      have denotes := ((Text.readSigned_eq_some_iff l.name v).mp read).1
      exact .inr ⟨rfl, integer, v, denotes, covers, shown⟩

/-- **The levels that are named at all** are those in normal form. -/
theorem exists_level_iff (d : Dimension) (l : Level) :
    (∃ raw, d.level raw = .ok l) ↔ d.Normal l := by
  constructor
  · rintro ⟨raw, h⟩
    obtain ⟨own, found | ⟨-, integer, v, -, covers, shown⟩⟩ := (d.level_eq_ok_iff raw l).mp h
    · exact ⟨own, .inl (mem_of_registered? found)⟩
    · exact ⟨own, .inr ⟨integer, v, covers, shown⟩⟩
  · exact fun normal => ⟨l.name, normal.level_name⟩

/-- A level in normal form is known. -/
theorem Normal.knows (h : d.Normal l) : d.Knows l := by
  obtain ⟨own, registered | ⟨integer, v, covers, shown⟩⟩ := h
  · exact ⟨own, .inr (.inr registered)⟩
  · refine ⟨own, .inr (.inl ?_)⟩
    rw [integerValue?, if_pos integer, Level.value?, shown,
      Text.readSigned_showInteger covers.1]
    rfl

/-- **A text that matches no registered level names the integer that it denotes.** -/
theorem level_of_denotes (integer : d.isInteger = true) (denotes : Text.Denotes raw.toList v)
    (covers : d.Covers v) (other : ∀ name ∈ d.levels, sameLetters name raw = false) :
    d.level raw = .ok ⟨d.name, Text.showInteger v⟩ :=
  (d.level_eq_ok_iff raw _).mpr
    ⟨rfl, .inr ⟨registered?_eq_none other, integer, v, denotes, covers, rfl⟩⟩

/-- **A text names a level in normal form.** Take any dimension, with any levels registered and any
orders declared. A level that a text names is one of the dimension; it is registered, or it is an
integer of the bounds of a dimension of integers under its canonical numeral; and its own name names
it again. Two levels that texts name have places beside each other, and every question about them is
answered. Two texts that match no registered level, not even up to case, name the same level if they
denote the same integer of the bounds. -/
theorem level_normal (d : Dimension) :
    (∀ raw l, d.level raw = .ok l →
      l.option = d.name ∧
      (l.name ∈ d.levels ∨
        d.isInteger = true ∧ ∃ v, d.Covers v ∧ l.name = Text.showInteger v) ∧
      d.level l.name = .ok l) ∧
    (∀ raw raw' l l', d.level raw = .ok l → d.level raw' = .ok l' →
      (∃ p, d.anchors l l' = .ok p) ∧
      ∀ relation,
        (∀ induced, ∃ answer, d.holds relation l l' induced = .ok answer) ∧
        ∃ order, d.order? relation l l' = .ok order) ∧
    ∀ raw raw' v, d.isInteger = true → Text.Denotes raw.toList v → Text.Denotes raw'.toList v →
      d.Covers v → (∀ name ∈ d.levels, sameLetters name raw = false) →
      (∀ name ∈ d.levels, sameLetters name raw' = false) →
        d.level raw = .ok ⟨d.name, Text.showInteger v⟩ ∧
        d.level raw' = .ok ⟨d.name, Text.showInteger v⟩ := by
  refine ⟨fun raw l named => ?_, fun raw raw' l l' named named' => ?_, ?_⟩
  · have normal := (d.exists_level_iff l).mp ⟨raw, named⟩
    exact ⟨normal.1, normal.2, normal.level_name⟩
  · have knows := ((d.exists_level_iff l).mp ⟨raw, named⟩).knows
    have knows' := ((d.exists_level_iff l').mp ⟨raw', named'⟩).knows
    exact ⟨⟨_, (d.anchors_eq_ok_iff l l' _).mpr ⟨knows, knows', rfl⟩⟩, fun relation =>
      ⟨fun induced => ⟨_, holds_of_knows knows knows' relation induced⟩,
        _, order?_of_knows knows knows' relation⟩⟩
  · intro raw raw' v integer denotes denotes' covers other other'
    exact ⟨level_of_denotes integer denotes covers other,
      level_of_denotes integer denotes' covers other'⟩

/-- Two spellings of a registered integer that are registered neither, and a placeholder that is
found up to case. -/
theorem level_normal_digits :
    Space.digitsDimension.level "+7" = .ok ⟨"n", "7"⟩ ∧
      Space.digitsDimension.level "007" = .ok ⟨"n", "7"⟩ ∧
      Space.digitsDimension.level "I" = .ok ⟨"n", "i"⟩ ∧
      Space.digitsDimension.level "7" = .ok ⟨"n", "7"⟩ ∧
      ∃ order, Space.digitsDimension.order? .moreSound ⟨"n", "7"⟩ ⟨"n", "i"⟩ = .ok order := by
  obtain ⟨every, pairs, same⟩ := level_normal Space.digitsDimension
  have denotes (raw : String) (read : Text.readSigned raw = some 7) :
      Text.Denotes raw.toList 7 := ((Text.readSigned_eq_some_iff raw 7).mp read).1
  have name : Space.digitsDimension.name = "n" := by decide +kernel
  have seven : Text.showInteger 7 = "7" := by decide +kernel
  have covers : Space.digitsDimension.Covers 7 := by
    have bounds : Space.digitsDimension.range = (0, 9) := by decide +kernel
    rw [Covers, bounds]
    decide
  obtain ⟨plus, zeros⟩ := same "+7" "007" 7 (by decide +kernel) (denotes "+7" (by decide +kernel))
    (denotes "007" (by decide +kernel)) covers (by decide +kernel) (by decide +kernel)
  have placeholder : Space.digitsDimension.level "I" = .ok ⟨"n", "i"⟩ := by decide +kernel
  rw [name, seven] at plus zeros
  exact ⟨plus, zeros, placeholder, (every "+7" _ plus).2.2,
    ((pairs "+7" "I" _ _ plus placeholder).2 .moreSound).2⟩

end Dimension
end OrderTrials
