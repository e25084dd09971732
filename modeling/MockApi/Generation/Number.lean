import MockApi.Random
import MockApi.Schema.Bounds

/-!
# Numbers

Numbers and integers from the range that a node states. A step, if there is one, is met by drawing the
factor. An empty range gives its lower end.
-/

namespace MockApi.Generation

open Schema

variable {σ : Type} [Source σ]

/-! ### Doubles -/

/-- How many places behind the point a step has, at most ten. -/
def decimalPlaces (step : Binary64) : Nat :=
  go 10 step
where
  go : Nat → Binary64 → Nat
    | 0, _ => 0
    | fuel + 1, scaled =>
      if Binary64.billionth.lt scaled.fract.abs then go fuel (scaled.mul (Binary64.ofNat 10)) + 1
      else 0

def roundTo (x : Binary64) (places : Nat) : Binary64 :=
  let factor := Binary64.powerOfTen places
  (x.mul factor).round.div factor

def factorBounds (bounds : NumericBounds) (step : Binary64) : Binary64 × Binary64 :=
  let low := (bounds.min.div step).ceil
  let low := if bounds.contains (low.mul step) then low else low.add Binary64.one
  let high := (bounds.max.div step).floor
  let high := if bounds.contains (high.mul step) then high else high.sub Binary64.one
  (low, high)

def multipleDraw (bounds : NumericBounds) (step : Binary64) : Draw σ Binary64 :=
  let (low, high) := factorBounds bounds step
  if high.lt low then pure bounds.min
  else do
    let factor ← Draw.intBetween low.toInt64 high.toInt64
    return roundTo ((Binary64.ofInt factor).mul step) (decimalPlaces step)

def between (bounds : NumericBounds) (t : Binary64) : Binary64 :=
  ((bounds.min.mul (Binary64.one.sub t)).add (bounds.max.mul t)).clamp bounds.min bounds.max

/-- A number moved off an end that is excluded, by a thousandth of the width. -/
def offEnds (bounds : NumericBounds) (x : Binary64) : Binary64 :=
  let thousand := Binary64.ofNat 1000
  let nudge := (bounds.max.div thousand).sub (bounds.min.div thousand)
  let x := if bounds.minExclusive && x.le bounds.min then bounds.min.add nudge else x
  if bounds.maxExclusive && bounds.max.le x then bounds.max.sub nudge else x

/-- A number of the range, with two places behind the point where such a number fits. -/
def spreadDraw (bounds : NumericBounds) : Draw σ Binary64 :=
  if bounds.max.le bounds.min then pure bounds.min
  else do
    let t ← Draw.unit
    Draw.rely (.ends bounds.min bounds.max)
    let x := offEnds bounds (between bounds t)
    let rounded := roundTo x 2
    return if bounds.contains rounded then rounded else x

def numberDraw (k : Keywords) : Draw σ Json := do
  let bounds := NumericBounds.ofKeywords k
  return .ofBinary64 <| ← match k.multipleOf.filter (Binary64.lt Binary64.zero ·) with
    | some step => multipleDraw bounds step
    | none => spreadDraw bounds

/-! ### Integers -/

def wrapped (n : Int) : Int := n.bmod (2 ^ 64)

def integerBounds (bounds : NumericBounds) : Int × Int :=
  (if bounds.minExclusive then wrapped (bounds.min.floor.toInt64 + 1) else bounds.min.ceil.toInt64,
    if bounds.maxExclusive then wrapped (bounds.max.ceil.toInt64 - 1)
    else bounds.max.floor.toInt64)

def isWholeStep (step : Binary64) : Bool :=
  Binary64.one.le step && step.fract.eq Binary64.zero

def integerDraw (k : Keywords) : Draw σ Json := do
  let (low, high) := integerBounds (NumericBounds.ofKeywords k)
  match k.multipleOf.filter (isWholeStep ·) with
  | some step =>
    let step := Binary64.toInt64 step
    let least := ((Binary64.ofInt low).div (Binary64.ofInt step)).ceil.toInt64
    let most := ((Binary64.ofInt high).div (Binary64.ofInt step)).floor.toInt64
    if most < least then return .ofInt low
    return .ofInt (wrapped ((← Draw.intBetween least most) * step))
  | none =>
    if high ≤ low then return .ofInt low
    return .ofInt (← Draw.intBetween low high)

end MockApi.Generation
