import OrderTrials.Random.Source
/-
# The ChaCha stream

Random words from the ChaCha stream cipher with eight rounds. The words of consecutive blocks form
one stream; a word of 64 bits is made of two words of it, the low half first.

Key definitions: `ChaCha`, `ChaCha.block`, `ChaCha.ofSeed`, `ChaCha.ofNumber`.
-/

namespace OrderTrials

/-- A place in the stream of a key: the next block and the words that are left of the last. -/
structure ChaCha where
  key : List UInt32
  counter : UInt64
  left : List UInt32
deriving DecidableEq, Inhabited

namespace ChaCha

/-- A word rotated to the left. -/
def rotate (x n : UInt32) : UInt32 := (x <<< n) ||| (x >>> (32 - n))

/-- Mixes four of the sixteen words. -/
def quarterRound (m : Array UInt32) (i j k l : Nat) : Array UInt32 :=
  let a := m.getD i 0
  let b := m.getD j 0
  let c := m.getD k 0
  let d := m.getD l 0
  let a := a + b
  let d := rotate (d ^^^ a) 16
  let c := c + d
  let b := rotate (b ^^^ c) 12
  let a := a + b
  let d := rotate (d ^^^ a) 8
  let c := c + d
  let b := rotate (b ^^^ c) 7
  (((m.setIfInBounds i a).setIfInBounds j b).setIfInBounds k c).setIfInBounds l d

/-- Mixes the columns and then the diagonals. -/
def doubleRound (m : Array UInt32) : Array UInt32 :=
  let m := quarterRound m 0 4 8 12
  let m := quarterRound m 1 5 9 13
  let m := quarterRound m 2 6 10 14
  let m := quarterRound m 3 7 11 15
  let m := quarterRound m 0 5 10 15
  let m := quarterRound m 1 6 11 12
  let m := quarterRound m 2 7 8 13
  quarterRound m 3 4 9 14

/-- The sixteen words before mixing: four constants, the key, the block number, and zeros for the
number of the stream. -/
def initial (key : List UInt32) (counter : UInt64) : List UInt32 :=
  ([0x61707865, 0x3320646e, 0x79622d32, 0x6b206574] : List UInt32) ++ key ++
    [counter.toUInt32, (counter >>> 32).toUInt32, 0, 0]

/-- The words of a block: four double rounds over the initial words, and these added. -/
def block (key : List UInt32) (counter : UInt64) : List UInt32 :=
  let start := initial key counter
  let mixed := doubleRound (doubleRound (doubleRound (doubleRound start.toArray)))
  List.zipWith (· + ·) mixed.toList start

/-- The next word of the stream. -/
def next (g : ChaCha) : UInt32 × ChaCha :=
  match g.left with
  | w :: r => (w, { g with left := r })
  | [] =>
    match block g.key g.counter with
    | w :: r => (w, { g with counter := g.counter + 1, left := r })
    | [] => (0, { g with counter := g.counter + 1 })

/-- Two words of the stream, the first one as the low half. -/
def nextLong (g : ChaCha) : UInt64 × ChaCha :=
  let (low, g) := g.next
  let (high, g) := g.next
  (low.toUInt64 ||| (high.toUInt64 <<< 32), g)

instance : Randomness ChaCha := ⟨next, nextLong⟩

/-- The start of the stream of a key of eight words. -/
def ofKey (key : List UInt32) : ChaCha := ⟨key, 0, []⟩

/-- The words that bytes spell, four at a time, the lowest byte first. -/
def wordsOfBytes : List UInt8 → List UInt32
  | a :: b :: c :: d :: r =>
    (a.toUInt32 ||| (b.toUInt32 <<< 8) ||| (c.toUInt32 <<< 16) ||| (d.toUInt32 <<< 24)) ::
      wordsOfBytes r
  | _ => []

/-- The start of the stream of a seed of 32 bytes. -/
def ofSeed (seed : List UInt8) : ChaCha := ofKey (wordsOfBytes seed)

/-- The key words that a number is spread over: a linear congruential sequence with permuted
output. -/
def spread : Nat → UInt64 → List UInt32
  | 0, _ => []
  | count + 1, s =>
    let s := s * 6364136223846793005 + 11634580027462260723
    let x := (((s >>> 18) ^^^ s) >>> 27).toUInt32
    let n := (s >>> 59).toUInt32
    ((x >>> n) ||| (x <<< ((32 - n) % 32))) :: spread count s

/-- The start of the stream that a number selects. -/
def ofNumber (n : UInt64) : ChaCha := ofKey (spread 8 n)

end ChaCha
end OrderTrials
