/-
# Octets

Programs exchange bytes, of which texts are a special case. A text of octets holds one character
for each byte, so that bytes can be read and compared like texts.

Key definitions: `Octets`, `Octets.ofBytes`, `Octets.toBytes`, `Octets.ofString`.
Key theorems: `Octets.toByte_ofByte`.
-/

namespace OrderTrials

/-- A text in which each character stands for one byte. -/
abbrev Octets := List Char

namespace Octets

/-- The character that stands for a byte. -/
def ofByte (b : UInt8) : Char := Char.ofNat b.toNat

/-- The byte that a character stands for. -/
def toByte (c : Char) : UInt8 := c.toNat.toUInt8

theorem toByte_ofByte (b : UInt8) : toByte (ofByte b) = b := by
  have h : b.toNat.isValidChar := Or.inl (Nat.lt_trans b.toNat_lt (by decide))
  have number : (Char.ofNat b.toNat).toNat = b.toNat := by
    rw [Char.ofNat, dif_pos h]
    rfl
  rw [toByte, ofByte, number]
  exact UInt8.ofNat_toNat

/-- Bytes as a text. -/
def ofBytes (b : ByteArray) : Octets := b.toList.map ofByte

/-- The bytes of a text. -/
def toBytes (o : Octets) : ByteArray := ⟨(o.map toByte).toArray⟩

/-- The bytes of a string as a text. -/
def ofString (s : String) : Octets := ofBytes s.toUTF8

/-- The string whose bytes a text holds; bytes that are none of a string are replaced. -/
def toString (o : Octets) : String :=
  match String.fromUTF8? (toBytes o) with
  | some s => s
  | none => String.ofList o

/-- A number in decimal digits. -/
def ofNat (n : Nat) : Octets := (Nat.repr n).toList

/-- A whole number in decimal digits. -/
def ofInt (n : Int) : Octets := if n < 0 then '-' :: ofNat n.natAbs else ofNat n.natAbs

/-- A text with another one in between. -/
def join (between : Octets) : List Octets → Octets
  | [] => []
  | [o] => o
  | o :: r => o ++ between ++ join between r

/-- Whether a text is somewhere inside another one. -/
def isWithin (part : Octets) : Octets → Bool
  | [] => part.isEmpty
  | c :: r => part.isPrefixOf (c :: r) || isWithin part r

end Octets
end OrderTrials
