import MockApi.Schema.Node

/-!
# Bounds of a node

The ranges that generated numbers, texts and arrays have to lie in: what the keywords of a node state,
and defaults for what they leave open.
-/

namespace MockApi.Schema

structure NumericBounds where
  min : Binary64
  minExclusive : Bool
  max : Binary64
  maxExclusive : Bool

def defaultSpan : Binary64 := Binary64.ofNat 1000

/-- A bound from its inclusive and its exclusive keyword, and whether it is excluded. Of two numbers
the `tighter` one counts, and an exclusive one wins over an equal inclusive one. -/
def mergeBound (inclusive : Option Binary64.Finite) (exclusive : Option ExclusiveBound)
    (tighter : Binary64 → Binary64 → Binary64) : Option Binary64.Finite × Bool :=
  match exclusive with
  | some (.flag true) => (inclusive, inclusive.isSome)
  | some (.value x) =>
    match inclusive with
    | some i =>
      if (tighter i x).eq i && !Binary64.eq i x then (some i, false) else (some x, true)
    | none => (some x, true)
  | _ => (inclusive, false)

namespace NumericBounds

def ofKeywords (k : Keywords) : NumericBounds :=
  let (lower, minExclusive) := mergeBound k.minimum k.exclusiveMinimum Binary64.max
  let (upper, maxExclusive) := mergeBound k.maximum k.exclusiveMaximum Binary64.min
  let (min, max) : Binary64 × Binary64 := match lower, upper with
    | some lo, some hi => (lo, hi)
    | some lo, none => (lo, Binary64.add lo defaultSpan)
    | none, some hi =>
      if Binary64.lt Binary64.zero hi then (Binary64.zero, hi)
      else (Binary64.sub hi defaultSpan, hi)
    | none, none => (Binary64.zero, defaultSpan)
  ⟨min, minExclusive, max, maxExclusive⟩

def contains (b : NumericBounds) (x : Binary64) : Bool :=
  (if b.minExclusive then b.min.lt x else b.min.le x) &&
    (if b.maxExclusive then x.lt b.max else x.le b.max)

end NumericBounds

def defaultMaxLength : Nat := 10

/-- Longer texts are made only where the least length asks for them. -/
def textLimit : Nat := 4096

def lengthBounds (k : Keywords) : Nat × Nat :=
  let min := k.minLength.getD 0
  let max := k.maxLength.getD (Nat.max min defaultMaxLength)
  (min, Nat.max (Nat.min max (Nat.max min textLimit)) min)

def lengthCeiling : Nat := 2 ^ 64 - 1

def statedLength (k : Keywords) : Nat × Nat :=
  let min := k.minLength.getD 0
  (min, Nat.max (k.maxLength.getD lengthCeiling) min)

def defaultMinItems : Nat := 1

def defaultMaxItems : Nat := 5

def itemLimit : Nat := 100

def itemBounds (k : Keywords) : Nat × Nat :=
  let min := Nat.min
    (k.minItems.getD (Nat.min defaultMinItems (k.maxItems.getD defaultMinItems))) itemLimit
  let max := k.maxItems.getD (Nat.max min defaultMaxItems)
  (min, Nat.min (Nat.max max min) (Nat.max itemLimit min))

end MockApi.Schema
