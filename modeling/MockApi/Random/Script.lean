import MockApi.Random

/-!
# A scripted source

A source that plays given words first and then goes on with a counter whose values are mixed. It
counts the words it has given.
-/

namespace MockApi

/-- The words still to be played, the counter behind them, and how many words were given. -/
structure Script where
  words : List UInt64
  counter : UInt64
  drawn : Nat

namespace Script

def mix (z : UInt64) : UInt64 :=
  let z := (z ^^^ (z >>> 30)) * 0xBF58476D1CE4E5B9
  let z := (z ^^^ (z >>> 27)) * 0x94D049BB133111EB
  z ^^^ (z >>> 31)

def next (s : Script) : UInt64 × Script :=
  match s.words with
  | word :: rest => (word, ⟨rest, s.counter, s.drawn + 1⟩)
  | [] =>
    let counter := s.counter + 0x9E3779B97F4A7C15
    (mix counter, ⟨[], counter, s.drawn + 1⟩)

/-- A short word is the upper half of a long one. -/
instance : Source Script where
  next64 := next
  next32 s := ((s.next.1 >>> 32).toUInt32, s.next.2)

end Script

end MockApi
