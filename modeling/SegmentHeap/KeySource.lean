/-
  Streams of candidate keys.

  A key source is a stream of 32-bit draws together with the number of draws taken so far.  A draw
  past the end of a finite stream takes nothing.  The key table masks what it is given and rejects
  keys that are in use, so a source has to be well spread, not free of repetitions.
-/

namespace SegmentHeap

/-- A stream of draws and a position in it. -/
structure KeySource where
  /-- The draw at each position; `none` where the stream has ended. -/
  stream : Nat → Option UInt32
  /-- The number of draws taken. -/
  drawn : Nat := 0

namespace KeySource

/-- The next draw, and the source after it. -/
def next (source : KeySource) : Option UInt32 × KeySource :=
  match source.stream source.drawn with
  | some draw => (some draw, { source with drawn := source.drawn + 1 })
  | none => (none, source)

/-- The next `count` draws. -/
def take : Nat → KeySource → List (Option UInt32)
  | 0, _ => []
  | count + 1, source => source.next.1 :: take count source.next.2

/-- The given draws, once. -/
def fixed (draws : List UInt32) : KeySource where
  stream position := draws[position]?

/-- The output mixer of the splitmix64 generator. -/
def mix (state : UInt64) : UInt64 :=
  let a := (state ^^^ (state >>> 30)) * 0xBF58476D1CE4E5B9
  let b := (a ^^^ (a >>> 27)) * 0x94D049BB133111EB
  b ^^^ (b >>> 31)

/-- The splitmix64 generator: each draw is the low half of the mixed state, and the state grows by
    one constant for each draw.  The stream never ends. -/
def seeded (seed : UInt64) : KeySource where
  stream position := some (mix (seed + UInt64.ofNat (position + 1) * 0x9E3779B97F4A7C15)).toUInt32

end KeySource

end SegmentHeap
