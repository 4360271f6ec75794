import OrderTrials.Number.Double
/-
# Drawing from a source of random words

A source yields words of 32 and of 64 bits and a next state. Everything random is built from such
words by the rules below, so that the same words always lead to the same draws. A number below a
bound is the high part of a word times the bound; when the low part leaves room for a carry, a
second word decides about it.

Key definitions: `Randomness`, `Random.below`, `Random.belowShort`, `Random.between`,
`Random.coin`, `Random.element`.
Key theorems: `Random.scale_lt`.
-/

namespace OrderTrials

/-- A state that yields random words. -/
class Randomness (σ : Type) where
  short : σ → UInt32 × σ
  long : σ → UInt64 × σ

namespace Random

variable {σ : Type} [Randomness σ]

/-- The number of words of 64 bits. -/
def longWords : Nat := 18446744073709551616

/-- The number of words of 32 bits. -/
def shortWords : Nat := 4294967296

/-- The number below `n` that two words below `words` lead to. -/
def scale (words n x y : Nat) : Nat :=
  let high := x * n / words
  let low := x * n % words
  if (words - n) % words < low && words ≤ low + y * n / words then high + 1 else high

/-- Whether a second word is needed to find a number below `n`. -/
def needsSecond (words n x : Nat) : Bool :=
  decide ((words - n) % words < x * n % words)

/-- A number below `n`, for `n` up to the number of words of 64 bits. -/
def below (n : Nat) (s : σ) : Nat × σ :=
  let (x, s) := Randomness.long s
  if needsSecond longWords n x.toNat then
    let (y, s) := Randomness.long s
    (scale longWords n x.toNat y.toNat, s)
  else (x.toNat * n / longWords, s)

/-- A number below `n`, for `n` up to the number of words of 32 bits. -/
def belowShort (n : Nat) (s : σ) : Nat × σ :=
  let (x, s) := Randomness.short s
  if needsSecond shortWords n x.toNat then
    let (y, s) := Randomness.short s
    (scale shortWords n x.toNat y.toNat, s)
  else (x.toNat * n / shortWords, s)

/-- A number between two signed words of 64 bits, both included. When these are the least and the
greatest signed word, it is the word drawn, read as a signed one. -/
def between (least greatest : Int) (s : σ) : Int × σ :=
  let span := (greatest - least + 1).toNat
  let (n, s) := below span s
  if span = longWords then ((n : Int).bmod longWords, s) else (least + n, s)

/-- A member of a list, or nothing and no draw from the empty list. -/
def element {α : Type} (l : List α) (s : σ) : Option α × σ :=
  if l.isEmpty then (none, s)
  else
    let (i, s) := belowShort l.length s
    (l[i]?, s)

/-- A coin that shows its head with the given chance. A sure coin takes no draw. -/
def coin (chance : Double) (s : σ) : Bool × σ :=
  if chance = Double.one then (true, s)
  else
    let (x, s) := Randomness.long s
    (decide (x.toNat < chance.floorTimesPower 64), s)

theorem mul_div_lt {x n words : Nat} (hx : x < words) (hn : 0 < n) : x * n / words < n := by
  rw [Nat.div_lt_iff_lt_mul (by omega), Nat.mul_comm n words]
  exact Nat.mul_lt_mul_of_pos_right hx hn

/-- A scaled word stays below the bound. -/
theorem scale_lt {words n x y : Nat} (hx : x < words) (hy : y < words) (hn : 0 < n) :
    scale words n x y < n := by
  have hw : 0 < words := by omega
  have hdiv := mul_div_lt hx hn
  simp only [scale]
  split
  · next h =>
    simp only [Bool.and_eq_true, decide_eq_true_eq] at h
    have hyn : y * n / words < n := mul_div_lt hy hn
    have hsplit : words * (x * n / words) + x * n % words = x * n := Nat.div_add_mod (x * n) words
    apply Decidable.byContradiction
    intro hge
    have hhigh : x * n / words = n - 1 := by omega
    have hxn : x * n ≤ (words - 1) * n := Nat.mul_le_mul_right n (by omega)
    have hmul : (words - 1) * n = words * n - n := by
      rw [Nat.sub_mul, Nat.one_mul]
    have hsucc : words * (n - 1) = words * n - words := by
      rw [Nat.mul_sub, Nat.mul_one]
    have hle : words ≤ words * n := Nat.le_mul_of_pos_right words hn
    rw [hhigh, hsucc] at hsplit
    omega
  · exact hdiv

theorem below_lt {n : Nat} (hn : 0 < n) (s : σ) : (below n s).1 < n := by
  simp only [below]
  split
  · exact scale_lt (Randomness.long s).1.toNat_lt (UInt64.toNat_lt _) hn
  · exact mul_div_lt (Randomness.long s).1.toNat_lt hn

theorem belowShort_lt {n : Nat} (hn : 0 < n) (s : σ) : (belowShort n s).1 < n := by
  simp only [belowShort]
  split
  · exact scale_lt (Randomness.short s).1.toNat_lt (UInt32.toNat_lt _) hn
  · exact mul_div_lt (Randomness.short s).1.toNat_lt hn

end Random
end OrderTrials
