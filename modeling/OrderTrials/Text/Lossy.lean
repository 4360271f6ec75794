import OrderTrials.Text.Numeral
/-
# Texts of any bytes

Bytes as a text where they need not be one. A sequence of bytes that starts a character and is
broken off counts as one unknown character, and so does any byte that starts none.

Key definitions: `Text.firstChar`, `Text.lossy`, `Text.brokenReason`.
-/

namespace OrderTrials
namespace Text

/-- What stands for bytes that are no character. -/
def unknownChar : Char := '\ufffd'

/-- The number of bytes that follow the first byte of a character, the range of the one right
after it, and the bits that the first byte gives. -/
def lead? (b : UInt8) : Option (Nat × UInt8 × UInt8 × Nat) :=
  if b < 0xC2 then none
  else if b < 0xE0 then some (1, 0x80, 0xBF, b.toNat - 0xC0)
  else if b == 0xE0 then some (2, 0xA0, 0xBF, 0)
  else if b == 0xED then some (2, 0x80, 0x9F, 13)
  else if b < 0xF0 then some (2, 0x80, 0xBF, b.toNat - 0xE0)
  else if b == 0xF0 then some (3, 0x90, 0xBF, 0)
  else if b < 0xF4 then some (3, 0x80, 0xBF, b.toNat - 0xF0)
  else if b == 0xF4 then some (3, 0x80, 0x8F, 4)
  else none

/-- Whether a byte goes on with a character. -/
def isContinuation (b : UInt8) : Bool := decide (0x80 ≤ b) && decide (b ≤ 0xBF)

/-- The character that some bytes complete, and the bytes after it; or the number of bytes up to
the one that breaks it off, which is not known if the bytes end before. -/
def completed : Nat → Nat → Nat → List UInt8 → Except (Option Nat) (Char × List UInt8)
  | 0, _, n, r => .ok (Char.ofNat n, r)
  | _ + 1, _, _, [] => .error none
  | more + 1, seen, n, b :: r =>
    if isContinuation b then completed more (seen + 1) (n * 64 + (b.toNat - 0x80)) r
    else .error (some seen)

/-- The character at the start of some bytes, and the bytes after it; or the number of bytes that
are no character. -/
def firstChar (b : UInt8) (r : List UInt8) : Except (Option Nat) (Char × List UInt8) :=
  if b < 0x80 then .ok (Char.ofNat b.toNat, r)
  else
    match lead? b, r with
    | none, _ => .error (some 1)
    | some _, [] => .error none
    | some (more, least, greatest, bits), c :: _ =>
      if least ≤ c ∧ c ≤ greatest then completed more 1 bits r else .error (some 1)

/-- The characters of some bytes. The first argument bounds their number. -/
def lossyChars : Nat → List UInt8 → List Char
  | 0, _ => []
  | _ + 1, [] => []
  | fuel + 1, b :: r =>
    match firstChar b r with
    | .ok (c, rest) => c :: lossyChars fuel rest
    | .error (some n) => unknownChar :: lossyChars fuel (r.drop (n - 1))
    | .error none => [unknownChar]

/-- Some bytes as a text. -/
def lossy (bytes : List UInt8) : String :=
  String.ofList (lossyChars (bytes.length + 1) bytes)

/-- Why some bytes are no text, given how many come before them. -/
def brokenReasonFrom : Nat → Nat → List UInt8 → Option String
  | 0, _, _ => none
  | _ + 1, _, [] => none
  | fuel + 1, index, b :: r =>
    match firstChar b r with
    | .ok (_, rest) => brokenReasonFrom fuel (index + (r.length + 1 - rest.length)) rest
    | .error (some n) =>
      some ("invalid utf-8 sequence of " ++ showNatural n ++ " bytes from index " ++
        showNatural index)
    | .error none => some ("incomplete utf-8 byte sequence from index " ++ showNatural index)

/-- Why some bytes are no text, if they are none. -/
def brokenReason (bytes : List UInt8) : Option String :=
  brokenReasonFrom (bytes.length + 1) 0 bytes

end Text
end OrderTrials
