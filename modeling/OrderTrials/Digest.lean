import OrderTrials.Text.Numeral
/-
# MD5 digests

The digest of RFC 1321. It serves as a short name for a configuration and as a suffix that tells
targets apart, so nothing here relies on its strength.

Key definitions: `Digest.blocks`, `Digest.compress`, `Digest.hex`.
-/

namespace OrderTrials
namespace Digest

/-- The four words that a digest is computed in. -/
structure State where
  a : UInt32
  b : UInt32
  c : UInt32
  d : UInt32
deriving DecidableEq, Inhabited

/-- The words before the first block. -/
def start : State := ⟨0x67452301, 0xefcdab89, 0x98badcfe, 0x10325476⟩

/-- The words that the steps of a block add: the fractional parts of sines. -/
def sines : Array UInt32 :=
  #[
    0xd76aa478, 0xe8c7b756, 0x242070db, 0xc1bdceee, 0xf57c0faf, 0x4787c62a,
    0xa8304613, 0xfd469501, 0x698098d8, 0x8b44f7af, 0xffff5bb1, 0x895cd7be,
    0x6b901122, 0xfd987193, 0xa679438e, 0x49b40821, 0xf61e2562, 0xc040b340,
    0x265e5a51, 0xe9b6c7aa, 0xd62f105d, 0x02441453, 0xd8a1e681, 0xe7d3fbc8,
    0x21e1cde6, 0xc33707d6, 0xf4d50d87, 0x455a14ed, 0xa9e3e905, 0xfcefa3f8,
    0x676f02d9, 0x8d2a4c8a, 0xfffa3942, 0x8771f681, 0x6d9d6122, 0xfde5380c,
    0xa4beea44, 0x4bdecfa9, 0xf6bb4b60, 0xbebfbc70, 0x289b7ec6, 0xeaa127fa,
    0xd4ef3085, 0x04881d05, 0xd9d4d039, 0xe6db99e5, 0x1fa27cf8, 0xc4ac5665,
    0xf4292244, 0x432aff97, 0xab9423a7, 0xfc93a039, 0x655b59c3, 0x8f0ccc92,
    0xffeff47d, 0x85845dd1, 0x6fa87e4f, 0xfe2ce6e0, 0xa3014314, 0x4e0811a1,
    0xf7537e82, 0xbd3af235, 0x2ad7d2bb, 0xeb86d391]

/-- By how much the steps of a block rotate, in four rounds. -/
def rotations : Array UInt32 :=
  #[7, 12, 17, 22, 5, 9, 14, 20, 4, 11, 16, 23, 6, 10, 15, 21]

/-- A word rotated to the left. -/
def rotateLeft (x n : UInt32) : UInt32 := (x <<< n) ||| (x >>> (32 - n))

/-- The word that four bytes spell, the lowest byte first. -/
def wordOf (a b c d : UInt8) : UInt32 :=
  a.toUInt32 ||| (b.toUInt32 <<< 8) ||| (c.toUInt32 <<< 16) ||| (d.toUInt32 <<< 24)

/-- The words that a list of bytes spells; bytes that are left over at its end are dropped. -/
def words : List UInt8 → List UInt32
  | a :: b :: c :: d :: r => wordOf a b c d :: words r
  | _ => []

/-- The lowest `count` bytes of a number, the lowest first. -/
def lowBytes : Nat → Nat → List UInt8
  | 0, _ => []
  | count + 1, n => n.toUInt8 :: lowBytes count (n / 256)

/-- The bytes with a one bit, zero bits up to a multiple of 64 bytes less eight, and the number
of bits in eight bytes. -/
def padded (bytes : List UInt8) : List UInt8 :=
  let n := bytes.length
  bytes ++ 0x80 :: List.replicate ((119 - n % 64) % 64) 0 ++ lowBytes 8 (8 * n)

/-- One of the 64 steps of a block. -/
def step (block : Array UInt32) (s : State) (i : Nat) : State :=
  let (mix, index) :=
    if i < 16 then ((s.b &&& s.c) ||| (~~~s.b &&& s.d), i)
    else if i < 32 then ((s.d &&& s.b) ||| (~~~s.d &&& s.c), (5 * i + 1) % 16)
    else if i < 48 then (s.b ^^^ s.c ^^^ s.d, (3 * i + 5) % 16)
    else (s.c ^^^ (s.b ||| ~~~s.d), (7 * i) % 16)
  let sum := s.a + mix + sines.getD i 0 + block.getD index 0
  ⟨s.d, s.b + rotateLeft sum (rotations.getD (i / 16 * 4 + i % 4) 0), s.b, s.c⟩

/-- Takes one block of sixteen words into the state. -/
def compress (s : State) (block : Array UInt32) : State :=
  let t := (List.range 64).foldl (step block) s
  ⟨s.a + t.a, s.b + t.b, s.c + t.c, s.d + t.d⟩

/-- The blocks of sixteen words of a list of words. -/
def blocks (ws : List UInt32) : List (Array UInt32) :=
  match ws with
  | [] => []
  | w :: r => (w :: r.take 15).toArray :: blocks (r.drop 15)
termination_by ws.length
decreasing_by simp only [List.length_drop, List.length_cons]; omega

/-- The sixteen bytes of the digest of some bytes. -/
def bytes (input : List UInt8) : List UInt8 :=
  let s := (blocks (words (padded input))).foldl compress start
  [s.a, s.b, s.c, s.d].flatMap fun w => lowBytes 4 w.toNat

/-- The digest of a text in UTF-8, as 32 lower-case hexadecimal digits. -/
def hex (text : String) : String :=
  String.ofList ((bytes text.toUTF8.toList).flatMap fun b => Text.hexDigits 2 b.toNat)

end Digest
end OrderTrials
