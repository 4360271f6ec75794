import OrderTrials.Text.Numeral
/-
# Numerals

A numeral denotes the value of its digits in decimal, with at most one sign in front
(`Text.Denotes`). What is read is what the text denotes (`Text.readInteger_eq_some_iff`), so the
canonical numeral of a word of 64 bits reads back as that word (`Text.readSigned_showInteger`).

Key definitions: `Text.IsDigits`, `Text.Denotes`.
Key theorems: `Text.digitsValue_eq_some_iff`, `Text.readInteger_eq_some_iff`,
`Text.readSigned_eq_some_iff`, `Text.readSigned_showInteger`.
-/

namespace OrderTrials

/-! ### What a numeral denotes -/

namespace Text

/-- At least one digit, and digits only. Leading zeros are digits. -/
def IsDigits (s : List Char) : Prop := s ≠ [] ∧ ∀ c ∈ s, c.isDigit = true

/-- What a text denotes in decimal: the value of its digits, with at most one sign in front. -/
inductive Denotes : List Char → Int → Prop where
  | unsigned {digits : List Char} : IsDigits digits →
      Denotes digits (Nat.ofDigitChars 10 digits 0)
  | plus {digits : List Char} : IsDigits digits →
      Denotes ('+' :: digits) (Nat.ofDigitChars 10 digits 0)
  | minus {digits : List Char} : IsDigits digits →
      Denotes ('-' :: digits) (-(Nat.ofDigitChars 10 digits 0 : Int))

theorem digitsValue_eq_some_iff (acc : Nat) (s : List Char) (n : Nat) :
    digitsValue acc s = some n ↔
      (∀ c ∈ s, c.isDigit = true) ∧ Nat.ofDigitChars 10 s acc = n := by
  induction s generalizing acc with
  | nil => simp [digitsValue]
  | cons c s ih =>
    rw [digitsValue, List.forall_mem_cons, Nat.ofDigitChars_cons]
    split
    · rename_i digit
      have next : acc * 10 + (c.toNat - 48) = 10 * acc + (c.toNat - '0'.toNat) := by
        rw [Nat.mul_comm]
        rfl
      rw [ih, next]
      simp only [digit, true_and]
    · rename_i other
      simp [other]

theorem readDigits_eq_some_iff (s : List Char) (n : Nat) :
    readDigits s = some n ↔ IsDigits s ∧ Nat.ofDigitChars 10 s 0 = n := by
  cases s with
  | nil => simp [readDigits, IsDigits]
  | cons c s => simp only [readDigits, digitsValue_eq_some_iff, IsDigits, ne_eq, reduceCtorEq,
      not_false_eq_true, true_and]

/-- No sign is a digit. -/
theorem IsDigits.not_sign {c : Char} {s : List Char} (h : IsDigits (c :: s)) :
    c ≠ '-' ∧ c ≠ '+' := by
  have digit := h.2 c List.mem_cons_self
  constructor <;> rintro rfl <;> exact absurd digit (by decide)

/-- **What is read is what the text denotes.** -/
theorem readInteger_eq_some_iff (s : List Char) (v : Int) :
    readInteger s = some v ↔ Denotes s v := by
  constructor
  · intro h
    unfold readInteger at h
    split at h
    · obtain ⟨_, read, rfl⟩ := Option.map_eq_some_iff.mp h
      obtain ⟨n, hn, value⟩ := Option.bind_eq_some_iff.mp read
      obtain rfl := Option.some.inj value
      obtain ⟨digits, rfl⟩ := (readDigits_eq_some_iff _ n).mp hn
      exact .minus digits
    · obtain ⟨_, read, rfl⟩ := Option.map_eq_some_iff.mp h
      obtain ⟨n, hn, value⟩ := Option.bind_eq_some_iff.mp read
      obtain rfl := Option.some.inj value
      unfold readNatural at hn
      split at hn <;> obtain ⟨digits, rfl⟩ := (readDigits_eq_some_iff _ n).mp hn
      · exact .plus digits
      · exact .unsigned digits
  · intro h
    cases h with
    | @unsigned s digits =>
      obtain ⟨c, s, rfl⟩ := List.exists_cons_of_ne_nil digits.1
      obtain ⟨minus, plus⟩ := digits.not_sign
      have read := (readDigits_eq_some_iff _ _).mpr ⟨digits, rfl⟩
      rw [readInteger, readNatural, read]
      · rfl
      · rintro r ⟨⟩
        exact plus rfl
      · rintro r ⟨⟩
        exact minus rfl
    | plus digits =>
      rw [readInteger, readNatural, (readDigits_eq_some_iff _ _).mpr ⟨digits, rfl⟩]
      · rfl
      · rintro r ⟨⟩
    | minus digits =>
      rw [readInteger, (readDigits_eq_some_iff _ _).mpr ⟨digits, rfl⟩]
      rfl

theorem readSigned_eq_some_iff (raw : String) (v : Int) :
    readSigned raw = some v ↔ Denotes raw.toList v ∧ isSignedWord v = true := by
  rw [readSigned, Option.filter_eq_some_iff, readInteger_eq_some_iff]

/-! ### Numerals read back -/

theorem toNat_digitChar (n : Nat) : (digitChar n).toNat = 48 + n % 10 := by
  have h : n % 10 < 10 := Nat.mod_lt _ (by decide)
  unfold digitChar
  revert h
  generalize n % 10 = k
  intro h
  match k, h with
  | 0, _ | 1, _ | 2, _ | 3, _ | 4, _ | 5, _ | 6, _ | 7, _ | 8, _ | 9, _ => decide

theorem digitsValue_append (acc : Nat) (s : List Char) (n : Nat) :
    digitsValue acc (s ++ [digitChar n]) = (digitsValue acc s).map fun v => v * 10 + n % 10 := by
  induction s generalizing acc with
  | nil => simp [digitsValue, isDigit_digitChar, toNat_digitChar]
  | cons c s ih =>
    rw [List.cons_append, digitsValue, digitsValue]
    split
    · exact ih _
    · rfl

theorem digitsValue_digits (n : Nat) : digitsValue 0 (digits n) = some n := by
  fun_induction digits n with
  | case1 n h =>
    rw [← List.nil_append [digitChar n], digitsValue_append]
    simp only [digitsValue, Option.map_some, Option.some.injEq]
    omega
  | case2 n h ih =>
    rw [digitsValue_append, ih, Option.map_some, Option.some.injEq]
    omega

theorem readDigits_digits (n : Nat) : readDigits (digits n) = some n := by
  unfold readDigits
  split
  · rename_i h
    exact absurd h (digits_ne_nil n)
  · exact digitsValue_digits n

theorem readInteger_digits (n : Nat) : readInteger (digits n) = some (n : Int) := by
  obtain ⟨digits, value⟩ := (readDigits_eq_some_iff _ n).mp (readDigits_digits n)
  have denotes := Denotes.unsigned digits
  rw [value] at denotes
  exact (readInteger_eq_some_iff _ _).mpr denotes

/-- **The canonical numeral of a word reads back as the word.** -/
theorem readSigned_showInteger {v : Int} (h : isSignedWord v = true) :
    readSigned (showInteger v) = some v := by
  have read : readInteger (showInteger v).toList = some v := by
    cases v with
    | ofNat n => rw [showInteger, showNatural, String.toList_ofList, readInteger_digits]; rfl
    | negSucc n =>
      rw [showInteger, String.toList_ofList, readInteger, readDigits_digits]
      rfl
  rw [readSigned, read, Option.filter_some, if_pos h]

end Text

end OrderTrials
