import OrderTrials.Random.Source
/-
# Replayed words

A source that hands out given words of 64 bits in turn and starts over after the last. A word of
32 bits is the low half of a whole word.

Key definitions: `Replay`.
-/

namespace OrderTrials

/-- Words to hand out, and those of them that are still to come in this turn. -/
structure Replay where
  words : List UInt64
  left : List UInt64
deriving DecidableEq, Inhabited

namespace Replay

/-- A source at its first word. -/
def ofList (words : List UInt64) : Replay := ⟨words, words⟩

/-- The next word; without any words it is zero. -/
def next (r : Replay) : UInt64 × Replay :=
  match r.left with
  | w :: rest => (w, { r with left := rest })
  | [] =>
    match r.words with
    | w :: rest => (w, { r with left := rest })
    | [] => (0, r)

instance : Randomness Replay where
  long := next
  short r := let (w, r) := r.next; (w.toUInt32, r)

end Replay
end OrderTrials
