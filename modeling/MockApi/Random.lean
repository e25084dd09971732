import MockApi.Binary64

/-!
# Random draws

A `Source` yields random words, and every draw is built from them: whole numbers from a range,
chances, reals of the unit interval, letters and digits. A range is met by redrawing; the redraws are
bounded, and the last one is taken whatever it is, so that every draw ends. It is in range all the
same (`below64_lt`).

A draw from a range without numbers means nothing, and so does a chance of two. What an operation relies
on in such a way is a `Demand`, which it tells the source before it goes on.
-/

namespace MockApi

/-- What an operation relies on. -/
inductive Demand
  /-- Something is left from `lo` to `hi`. -/
  | range (lo hi : Int)
  | probability (p : Binary64)
  /-- Numbers can be kept between these two. -/
  | ends (lo hi : Binary64)
  /-- A list of `length` members has one at place `i`. -/
  | place (i length : Nat)
  /-- What is taken away is there. -/
  | difference (whole part : Nat)
deriving DecidableEq

namespace Demand

def Met : Demand → Prop
  | range lo hi => lo ≤ hi
  | probability p => Binary64.zero.le p ∧ p.le Binary64.one
  | ends lo hi => lo.le hi
  | place i length => i < length
  | difference whole part => part ≤ whole

instance : DecidablePred Met
  | range lo hi => inferInstanceAs (Decidable (lo ≤ hi))
  | probability p => inferInstanceAs (Decidable (Binary64.zero.le p ∧ p.le Binary64.one))
  | ends lo hi => inferInstanceAs (Decidable (lo.le hi))
  | place i length => inferInstanceAs (Decidable (i < length))
  | difference whole part => inferInstanceAs (Decidable (part ≤ whole))

end Demand

class Source (σ : Type) where
  next32 : σ → UInt32 × σ
  next64 : σ → UInt64 × σ
  /-- The source after it was told of a demand, which most sources do not heed. -/
  watch : Demand → σ → σ := fun _ s => s

abbrev Draw (σ : Type) := StateM σ

namespace Draw

variable {σ : Type} [Source σ]

def word32 : Draw σ UInt32 := fun s => Source.next32 s

def word64 : Draw σ UInt64 := fun s => Source.next64 s

def rely (demand : Demand) : Draw σ Unit := fun s => ((), Source.watch demand s)

def redraws : Nat := 65536

/-- The first draw that is accepted, or the last one of `fuel + 1`. -/
def retry {α : Type} (accept : α → Bool) (draw : Draw σ α) : Nat → Draw σ α
  | 0 => draw
  | fuel + 1 => do
    let x ← draw
    if accept x then pure x else retry accept draw fuel

/-- A word of `2 ^ bits` values spread over `n` cells: the cell, and the place inside it. -/
def spread (n bits word : Nat) : Nat × Nat := (word * n / 2 ^ bits, word * n % 2 ^ bits)

/-- The last place accepted for `n` cells: the greatest multiple of `n` by a power of two that fits,
less one. -/
def shiftedZone (n bits : Nat) : Nat := n * 2 ^ (bits - 1 - n.log2) - 1

def spread64 (n : Nat) : Draw σ (Nat × Nat) := do return spread n 64 (← word64).toNat

def below64 (n : Nat) : Draw σ Nat :=
  if n = 2 ^ 64 then do return (← word64).toNat
  else do return (← retry (·.2 ≤ shiftedZone n 64) (spread64 n) redraws).1

def spread32 (n : Nat) : Draw σ (Nat × Nat) := do return spread n 32 (← word32).toNat

def below32 (n : Nat) : Draw σ Nat :=
  if n = 2 ^ 32 then do return (← word32).toNat
  else do return (← retry (·.2 ≤ shiftedZone n 32) (spread32 n) redraws).1

/-- A whole number below `n`, from words of 32 bits, where every cell accepts equally many places. -/
def belowEven32 (n : Nat) : Draw σ Nat := do
  let zone := 2 ^ 32 - 1 - (2 ^ 32 - n) % n
  return (← retry (·.2 ≤ zone) (spread32 n) redraws).1

def natBetween (lo hi : Nat) : Draw σ Nat := do
  rely (.range lo hi)
  return lo + (← below64 (hi - lo + 1))

def shortBetween (lo hi : Nat) : Draw σ Nat := do
  rely (.range lo hi)
  return lo + (← below32 (hi - lo + 1))

/-- An integer from `lo` to `hi`. In a range of `2 ^ 64` integers a word gives the one that it is
congruent to. -/
def intBetween (lo hi : Int) : Draw σ Int := do
  rely (.range lo hi)
  let n := (hi - lo + 1).toNat
  if n = 2 ^ 64 then return lo + ((← word64).toNat - lo) % (2 ^ 64 : Nat)
  else return lo + (← below64 n)

/-- A place in a list. -/
def index (length : Nat) : Draw σ Nat := do
  rely (.range 0 (length - 1))
  let i ← below64 length
  rely (.place i length)
  return i

def oneOf {α : Type} (x : α) (rest : List α) : Draw σ α := do
  return (x :: rest).getD (← index (rest.length + 1)) x

def share (p : Binary64) : Nat :=
  match p with
  | .finite x => if x.negative then 0 else x.units * 2 ^ 64 / Binary64.unitsPerOne
  | _ => 0

/-- True with probability `p`. What is certain draws nothing. -/
def chance (p : Binary64) : Draw σ Bool := do
  rely (.probability p)
  if p.eq Binary64.one then return true else return decide ((← word64).toNat < share p)

def unit : Draw σ Binary64 := do
  return Binary64.ofRatio false ((← word64).toNat / 2 ^ 11 * Binary64.unitsPerOne) (2 ^ 53)

def letter : Draw σ Char := do
  rely (.range 97 122)
  return Char.ofNat (97 + (← belowEven32 26))

def alphanumerics : List Char :=
  "ABCDEFGHIJKLMNOPQRSTUVWXYZabcdefghijklmnopqrstuvwxyz0123456789".toList

def alphanumeric : Draw σ Char := do
  let draw : Draw σ Nat := do return (← word32).toNat / 2 ^ 26
  return alphanumerics.getD (← retry (· < 62) draw redraws) 'A'

def byte : Draw σ UInt8 := do return (← word32).toUInt8

def short : Draw σ UInt16 := do return (← word32).toUInt16

/-- A difference of natural numbers. -/
def minus (whole part : Nat) : Draw σ Nat := do
  rely (.difference whole part)
  return whole - part

def times {α : Type} (count : Nat) (draw : Draw σ α) : Draw σ (List α) :=
  match count with
  | 0 => pure []
  | count + 1 => do
    let x ← draw
    return x :: (← times count draw)

/-! ### Ranges -/

theorem spread_lt {n bits word : Nat} (h : word < 2 ^ bits) (hn : 0 < n) :
    (spread n bits word).1 < n := by
  unfold spread
  rw [Nat.div_lt_iff_lt_mul (Nat.two_pow_pos bits), Nat.mul_comm word n]
  exact Nat.mul_lt_mul_of_pos_left h hn

omit [Source σ] in
theorem retry_holds {α : Type} {P : α → Prop} {accept : α → Bool} {draw : Draw σ α}
    (h : ∀ s, P (draw s).1) (fuel : Nat) (s : σ) : P (retry accept draw fuel s).1 := by
  induction fuel generalizing s with
  | zero => exact h s
  | succ fuel ih =>
    simp only [retry, bind, StateT.bind]
    show P ((if accept (draw s).1 then pure (draw s).1 else retry accept draw fuel) (draw s).2).1
    split
    · exact h s
    · exact ih _

theorem below64_lt {n : Nat} (h : 0 < n) (s : σ) : (below64 n s).1 < n := by
  unfold below64
  split
  · rename_i h64
    subst h64
    exact (word64 s).1.toNat_lt
  · show (retry (·.2 ≤ shiftedZone n 64) (spread64 n) redraws s).1.1 < n
    exact retry_holds (P := fun x : Nat × Nat => x.1 < n)
      (fun s => spread_lt (word64 s).1.toNat_lt h) redraws s

theorem below32_lt {n : Nat} (h : 0 < n) (s : σ) : (below32 n s).1 < n := by
  unfold below32
  split
  · rename_i h32
    subst h32
    exact (word32 s).1.toNat_lt
  · show (retry (·.2 ≤ shiftedZone n 32) (spread32 n) redraws s).1.1 < n
    exact retry_holds (P := fun x : Nat × Nat => x.1 < n)
      (fun s => spread_lt (word32 s).1.toNat_lt h) redraws s

end Draw

end MockApi
