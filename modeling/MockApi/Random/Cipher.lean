import MockApi.Random

/-!
# A seeded source

The words of a stream cipher with six double rounds: sixteen words are mixed a block at a time from a
key and the number of the block. The key is stretched from a seed of 64 bits. A long word is two short
ones, the lower half first.
-/

namespace MockApi

/-- A position in the stream of a key: the words left of the current block, and the number of the
next one. -/
structure Cipher where
  key : List UInt32
  pending : List UInt32
  block : Nat

namespace Cipher

def rotateLeft (x : UInt32) (n : UInt32) : UInt32 := (x <<< n) ||| (x >>> (32 - n))

def rotateRight (x : UInt32) (n : UInt32) : UInt32 :=
  if n = 0 then x else (x >>> n) ||| (x <<< (32 - n))

structure Block where
  a0 : UInt32
  a1 : UInt32
  a2 : UInt32
  a3 : UInt32
  b0 : UInt32
  b1 : UInt32
  b2 : UInt32
  b3 : UInt32
  c0 : UInt32
  c1 : UInt32
  c2 : UInt32
  c3 : UInt32
  d0 : UInt32
  d1 : UInt32
  d2 : UInt32
  d3 : UInt32

def quarter (a b c d : UInt32) : UInt32 × UInt32 × UInt32 × UInt32 :=
  let a := a + b
  let d := rotateLeft (d ^^^ a) 16
  let c := c + d
  let b := rotateLeft (b ^^^ c) 12
  let a := a + b
  let d := rotateLeft (d ^^^ a) 8
  let c := c + d
  let b := rotateLeft (b ^^^ c) 7
  (a, b, c, d)

def doubleRound (x : Block) : Block :=
  let (a0, b0, c0, d0) := quarter x.a0 x.b0 x.c0 x.d0
  let (a1, b1, c1, d1) := quarter x.a1 x.b1 x.c1 x.d1
  let (a2, b2, c2, d2) := quarter x.a2 x.b2 x.c2 x.d2
  let (a3, b3, c3, d3) := quarter x.a3 x.b3 x.c3 x.d3
  let (a0, b1, c2, d3) := quarter a0 b1 c2 d3
  let (a1, b2, c3, d0) := quarter a1 b2 c3 d0
  let (a2, b3, c0, d1) := quarter a2 b3 c0 d1
  let (a3, b0, c1, d2) := quarter a3 b0 c1 d2
  ⟨a0, a1, a2, a3, b0, b1, b2, b3, c0, c1, c2, c3, d0, d1, d2, d3⟩

def start (key : List UInt32) (block : Nat) : Block where
  a0 := 0x61707865
  a1 := 0x3320646E
  a2 := 0x79622D32
  a3 := 0x6B206574
  b0 := key.getD 0 0
  b1 := key.getD 1 0
  b2 := key.getD 2 0
  b3 := key.getD 3 0
  c0 := key.getD 4 0
  c1 := key.getD 5 0
  c2 := key.getD 6 0
  c3 := key.getD 7 0
  d0 := UInt32.ofNat block
  d1 := UInt32.ofNat (block / 2 ^ 32)
  d2 := 0
  d3 := 0

/-- The words of a block: the mixed square added to the square before mixing. -/
def blockWords (key : List UInt32) (block : Nat) : List UInt32 :=
  let x := start key block
  let y := Nat.repeat doubleRound 6 x
  [x.a0 + y.a0, x.a1 + y.a1, x.a2 + y.a2, x.a3 + y.a3, x.b0 + y.b0, x.b1 + y.b1, x.b2 + y.b2,
    x.b3 + y.b3, x.c0 + y.c0, x.c1 + y.c1, x.c2 + y.c2, x.c3 + y.c3, x.d0 + y.d0, x.d1 + y.d1,
    x.d2 + y.d2, x.d3 + y.d3]

def next (s : Cipher) : UInt32 × Cipher :=
  match s.pending with
  | word :: rest => (word, { s with pending := rest })
  | [] =>
    match blockWords s.key s.block with
    | word :: rest => (word, ⟨s.key, rest, s.block + 1⟩)
    | [] => (0, ⟨s.key, [], s.block + 1⟩)

instance : Source Cipher where
  next32 := next
  next64 s :=
    let (low, s) := s.next
    let (high, s) := s.next
    (low.toUInt64 ||| (high.toUInt64 <<< 32), s)

/-- `count` words of a key stretched from a state of 64 bits. -/
def stretch (state : UInt64) : Nat → List UInt32
  | 0 => []
  | count + 1 =>
    let state := state * 6364136223846793005 + 11634580027462260723
    let folded := (((state >>> 18) ^^^ state) >>> 27).toUInt32
    rotateRight folded (state >>> 59).toUInt32 :: stretch state count

def ofSeed (seed : UInt64) : Cipher := ⟨stretch seed 8, [], 0⟩

end Cipher

end MockApi
