import MockApi.Proofs.Binary64.Saturation
import MockApi.Proofs.Generation.Integers
import MockApi.Proofs.Generation.Reaching

/-!
# Integers of 64 bits

A whole number is drawn with operations on 64 bits, which wrap around. Here the same draw is run with operations that
fail instead (`checkedDraw`), and it is said exactly where none of them does (`checkedDraw_eq_iff`): an end that is
excluded must not be the end of the 64 bits, and where the range goes beyond them, the last multiple of the step must
not.
-/

namespace MockApi.Generation

open Schema Binary64

/-! ### Checked operations -/

/-- A whole number of 64 bits, or nothing. -/
def checked (n : Int) : Option Int := if -(2 ^ 63 : Nat) ≤ n ∧ n < (2 ^ 63 : Nat) then some n else none

def checkedLow (bounds : NumericBounds) : Option Int :=
  if bounds.minExclusive then checked (bounds.min.floor.toInt64 + 1) else some bounds.min.ceil.toInt64

def checkedHigh (bounds : NumericBounds) : Option Int :=
  if bounds.maxExclusive then checked (bounds.max.ceil.toInt64 - 1) else some bounds.max.floor.toInt64

def checkedBounds (bounds : NumericBounds) : Option (Int × Int) := do
  return (← checkedLow bounds, ← checkedHigh bounds)

/-- The first and the last factor of a step in a range. -/
def stepFactors (ends : Int × Int) (step : Int) : Int × Int :=
  (((ofInt ends.1).div (ofInt step)).ceil.toInt64, ((ofInt ends.2).div (ofInt step)).floor.toInt64)

variable {σ : Type} [Source σ]

/-- The draw of an integer with checked operations, and nothing where one of them fails. -/
def checkedDraw (k : Keywords) : Draw σ (Option Json) :=
  match checkedBounds (.ofKeywords k) with
  | none => pure none
  | some (low, high) =>
    match k.multipleOf.filter (isWholeStep ·) with
    | some step => do
      let step := Binary64.toInt64 step
      let least := ((Binary64.ofInt low).div (Binary64.ofInt step)).ceil.toInt64
      let most := ((Binary64.ofInt high).div (Binary64.ofInt step)).floor.toInt64
      if most < least then return some (.ofInt low)
      return (checked ((← Draw.intBetween least most) * step)).map .ofInt
    | none => do
      if high ≤ low then return some (.ofInt low)
      return some (.ofInt (← Draw.intBetween low high))

section

variable {bounds : NumericBounds} {ends : Int × Int} {lo hi : Finite} {n m : Int}

theorem checked_eq_some_iff : checked n = some m ↔ (-(2 ^ 63 : Nat) ≤ n ∧ n < (2 ^ 63 : Nat)) ∧ n = m := by
  unfold checked
  split
  · rename_i within
    rw [Option.some.injEq, and_iff_right within]
  · rename_i beyond
    exact iff_of_false nofun fun both => beyond both.1

theorem wrapped_of_checked (fits : checked n = some m) : wrapped n = m := by
  obtain ⟨⟨least, most⟩, rfl⟩ := checked_eq_some_iff.mp fits
  exact wrapped_of_within least most

theorem checkedBounds_eq_some_iff : checkedBounds bounds = some ends ↔
    checkedLow bounds = some ends.1 ∧ checkedHigh bounds = some ends.2 := by
  unfold checkedBounds
  cases checkedLow bounds <;> cases checkedHigh bounds <;> simp [Prod.ext_iff]

/-- Where no operation fails, the ends are those of the draw itself. -/
theorem integerBounds_of_checked (fits : checkedBounds bounds = some ends) : integerBounds bounds = ends := by
  obtain ⟨low, high⟩ := checkedBounds_eq_some_iff.mp fits
  unfold checkedLow at low
  unfold checkedHigh at high
  refine Prod.ext ?_ ?_
  · dsimp only [integerBounds]
    split at low
    · rename_i excluded
      rw [if_pos excluded, wrapped_of_checked low]
    · rename_i included
      rw [if_neg included, Option.some.inj low]
  · dsimp only [integerBounds]
    split at high
    · rename_i excluded
      rw [if_pos excluded, wrapped_of_checked high]
    · rename_i included
      rw [if_neg included, Option.some.inj high]

/-! ### The ends -/

/-- A lower end of 64 bits for a number. It is rounded to `bottom` only if the number is not above that. -/
structure LowEnd (lo : Finite) (low : Int) : Prop where
  least : -(2 ^ 63 : Nat) ≤ low
  most : low < (2 ^ 63 : Nat)
  rounded : lo.signed ≤ -(2 ^ 63 : Nat) * unitsPerOne → ofInt low = bottom
  inside : -(2 ^ 63 : Nat) * unitsPerOne < lo.signed → -(lastBelowTop : Int) ≤ low

structure HighEnd (hi : Finite) (high : Int) : Prop where
  least : -(2 ^ 63 : Nat) ≤ high
  most : high < (2 ^ 63 : Nat)
  rounded : (2 ^ 63 : Nat) * unitsPerOne ≤ hi.signed → ofInt high = top
  inside : hi.signed < (2 ^ 63 : Nat) * unitsPerOne → high ≤ lastBelowTop

theorem lowEnd_of_checked (min_eq : bounds.min = .finite lo) (fits : checkedLow bounds = some n) : LowEnd lo n := by
  have inside (above : -(2 ^ 63 : Nat) * unitsPerOne < lo.signed) :
      -(lastBelowTop : Int) * unitsPerOne ≤ lo.signed := by
    have last := Finite.signed_of_above above
    rwa [Int.natCast_mul, ← Int.neg_mul] at last
  unfold checkedLow at fits
  rw [min_eq, toInt64_floor, toInt64_ceil] at fits
  split at fits
  · obtain ⟨⟨least, most⟩, rfl⟩ := checked_eq_some_iff.mp fits
    refine ⟨least, most, fun below => ?_, fun above => ?_⟩
    · rw [cut64_of_le (units_le_iff.mp (Int.le_trans lo.floorInt_mul_le below)), ofInt_ends.2.2]
    · have := (le_cut64_iff (by decide) (by decide)).mpr (Finite.le_floorInt_iff.mpr (inside above))
      omega
  · cases fits
    obtain ⟨least, most⟩ := cut64_bounds lo.ceilInt
    refine ⟨least, most, fun below => ?_, fun above => ?_⟩
    · rw [cut64_of_le (Finite.ceilInt_le_iff.mpr below), bottom]
    · have whole := units_le_iff.mp (Int.le_trans (inside above) lo.le_ceilInt_mul)
      exact (le_cut64_iff (by decide) (by decide)).mpr whole

theorem highEnd_of_checked (max_eq : bounds.max = .finite hi) (fits : checkedHigh bounds = some n) :
    HighEnd hi n := by
  have inside (below : hi.signed < (2 ^ 63 : Nat) * unitsPerOne) :
      hi.signed ≤ (lastBelowTop : Int) * unitsPerOne := by
    have last := Finite.signed_of_below below
    rwa [Int.natCast_mul] at last
  unfold checkedHigh at fits
  rw [max_eq, toInt64_floor, toInt64_ceil] at fits
  split at fits
  · obtain ⟨⟨least, most⟩, rfl⟩ := checked_eq_some_iff.mp fits
    refine ⟨least, most, fun above => ?_, fun below => ?_⟩
    · rw [cut64_of_ge (units_le_iff.mp (Int.le_trans above hi.le_ceilInt_mul)), Int.sub_sub]
      exact ofInt_ends.2.1
    · have := (cut64_le_iff (by decide) (by decide)).mpr (Finite.ceilInt_le_iff.mpr (inside below))
      omega
  · cases fits
    obtain ⟨least, most⟩ := cut64_bounds hi.floorInt
    refine ⟨least, most, fun above => ?_, fun below => ?_⟩
    · rw [cut64_of_ge (Finite.le_floorInt_iff.mpr above), ofInt_ends.1]
    · have whole := units_le_iff.mp (Int.le_trans hi.floorInt_mul_le (inside below))
      exact (cut64_le_iff (by decide) (by decide)).mpr whole

/-- A lower end that is excluded must not be the last number of 64 bits. -/
theorem checkedLow_iff (min_eq : bounds.min = .finite lo) :
    (∃ low, checkedLow bounds = some low) ↔
      (bounds.minExclusive = true → lo.signed < (2 ^ 63 : Nat) * unitsPerOne) := by
  unfold checkedLow
  rw [min_eq, toInt64_floor]
  cases bounds.minExclusive with
  | false => exact iff_of_true ⟨_, rfl⟩ nofun
  | true =>
    simp only [if_true, checked_eq_some_iff, forall_const]
    constructor
    · rintro ⟨low, ⟨-, most⟩, -⟩
      refine Int.not_le.mp fun above => ?_
      rw [cut64_of_ge (Finite.le_floorInt_iff.mpr above)] at most
      omega
    · intro below
      have last := Int.le_trans lo.floorInt_mul_le (Finite.signed_of_below below)
      rw [Int.natCast_mul] at last
      have most := (cut64_le_iff (by decide) (by decide)).mpr (units_le_iff.mp last)
      have least := (cut64_bounds lo.floorInt).1
      exact ⟨_, ⟨by omega, Int.lt_of_le_of_lt (Int.add_le_add_right most 1) (by decide)⟩, rfl⟩

theorem checkedHigh_iff (max_eq : bounds.max = .finite hi) :
    (∃ high, checkedHigh bounds = some high) ↔
      (bounds.maxExclusive = true → -(2 ^ 63 : Nat) * unitsPerOne < hi.signed) := by
  unfold checkedHigh
  rw [max_eq, toInt64_ceil]
  cases bounds.maxExclusive with
  | false => exact iff_of_true ⟨_, rfl⟩ nofun
  | true =>
    simp only [if_true, checked_eq_some_iff, forall_const]
    constructor
    · rintro ⟨high, ⟨least, -⟩, -⟩
      refine Int.not_le.mp fun below => ?_
      rw [cut64_of_le (Finite.ceilInt_le_iff.mpr below)] at least
      omega
    · intro above
      have low : ¬hi.ceilInt ≤ -(2 ^ 63 : Nat) := mt Finite.ceilInt_le_iff.mp (Int.not_le.mpr above)
      have least : -(2 ^ 63 : Nat) < cut64 hi.ceilInt := Int.not_le.mp (mt (cut64_le_iff (by decide) (by decide)).mp low)
      have most := (cut64_bounds hi.ceilInt).2
      exact ⟨_, ⟨by omega, by omega⟩, rfl⟩

/-! ### The factors -/

section

variable {low high s rounded : Int} (divisor : Divisor s rounded)
include divisor

theorem most_fits_iff (top_end : HighEnd hi high) :
    ((ofInt high).div (ofInt s)).floor.toInt64 * s < (2 ^ 63 : Nat) ↔
      ((2 ^ 63 : Nat) * unitsPerOne ≤ hi.signed → (top.div (ofInt s)).floor.toInt64 * s < (2 ^ 63 : Nat)) := by
  by_cases beyond : (2 ^ 63 : Nat) * unitsPerOne ≤ hi.signed
  · rw [top_end.rounded beyond, forall_prop_of_true beyond]
  · exact iff_of_true (divisor.floor_div_mul_lt top_end.least (top_end.inside (Int.not_le.mp beyond)))
      fun above => absurd above beyond

theorem least_fits_iff (bottom_end : LowEnd lo low) :
    -(2 ^ 63 : Nat) ≤ ((ofInt low).div (ofInt s)).ceil.toInt64 * s ↔
      (lo.signed ≤ -(2 ^ 63 : Nat) * unitsPerOne → -(2 ^ 63 : Nat) ≤ (bottom.div (ofInt s)).ceil.toInt64 * s) := by
  by_cases beyond : lo.signed ≤ -(2 ^ 63 : Nat) * unitsPerOne
  · rw [bottom_end.rounded beyond, forall_prop_of_true beyond]
  · exact iff_of_true
      (divisor.le_ceil_div_mul (bottom_end.inside (Int.not_le.mp beyond)) (Int.le_of_lt bottom_end.most))
      fun below => absurd below beyond

end

/-- All multiples of a step fit if the first and the last one do. -/
theorem checked_multiples_iff {least most s : Int} (inhabited : least ≤ most) (narrow : most - least < (2 ^ 64 : Nat))
    (positive : 0 < s) : (∀ (σ : Type) [Source σ] (source : σ),
        ∃ m, checked ((Draw.intBetween least most source).1 * s) = some m) ↔
      -(2 ^ 63 : Nat) ≤ least * s ∧ most * s < (2 ^ 63 : Nat) := by
  constructor
  · intro fits
    have reached {factor : Int} (above : least ≤ factor) (below : factor ≤ most) :
        -(2 ^ 63 : Nat) ≤ factor * s ∧ factor * s < (2 ^ 63 : Nat) := by
      obtain ⟨words, run⟩ := Draw.intBetween_reaches above below narrow
      obtain ⟨m, found⟩ := fits Script ⟨words ++ [], 0, 0⟩
      rw [run] at found
      exact (checked_eq_some_iff.mp found).1
    exact ⟨(reached (Int.le_refl least) inhabited).1, (reached inhabited (Int.le_refl most)).2⟩
  · rintro ⟨first, last⟩ σ _ source
    obtain ⟨above, below⟩ := Draw.intBetween_gives inhabited source
    have more := Int.mul_le_mul_of_nonneg_right above (Int.le_of_lt positive)
    have less := Int.mul_le_mul_of_nonneg_right below (Int.le_of_lt positive)
    exact ⟨_, checked_eq_some_iff.mpr ⟨⟨Int.le_trans first more, Int.lt_of_le_of_lt less last⟩, rfl⟩⟩

/-! ### The draw -/

/-- Where 64 bits are enough. The ends are looked at, and the multiples next to those of the 64 bits if the range goes
beyond them. -/
structure Fits (k : Keywords) : Prop where
  low : (NumericBounds.ofKeywords k).minExclusive = true → (NumericBounds.ofKeywords k).min.lt top = true
  high : (NumericBounds.ofKeywords k).maxExclusive = true → bottom.lt (NumericBounds.ofKeywords k).max = true
  most : ∀ step, k.multipleOf = some step → isWholeStep step = true →
    (stepFactors (integerBounds (.ofKeywords k)) (toInt64 step)).1 ≤
      (stepFactors (integerBounds (.ofKeywords k)) (toInt64 step)).2 →
    top.le (NumericBounds.ofKeywords k).max = true →
      (top.div (ofInt (toInt64 step))).floor.toInt64 * toInt64 step < (2 ^ 63 : Nat)
  least : ∀ step, k.multipleOf = some step → isWholeStep step = true →
    (stepFactors (integerBounds (.ofKeywords k)) (toInt64 step)).1 ≤
      (stepFactors (integerBounds (.ofKeywords k)) (toInt64 step)).2 →
    (NumericBounds.ofKeywords k).min.le bottom = true →
      -(2 ^ 63 : Nat) ≤ (bottom.div (ofInt (toInt64 step))).ceil.toInt64 * toInt64 step

theorem checkedBounds_iff (k : Keywords) : (∃ ends, checkedBounds (.ofKeywords k) = some ends) ↔
    ((NumericBounds.ofKeywords k).minExclusive = true → (NumericBounds.ofKeywords k).min.lt top = true) ∧
      ((NumericBounds.ofKeywords k).maxExclusive = true → bottom.lt (NumericBounds.ofKeywords k).max = true) := by
  obtain ⟨⟨lo, lo_eq⟩, ⟨hi, hi_eq⟩⟩ := NumericBounds.bounded_ofKeywords k
  obtain ⟨first, bottom_eq, bottom_signed⟩ := bottom_exactly
  obtain ⟨last, top_eq, top_signed⟩ := top_exactly
  rw [lo_eq, hi_eq, bottom_eq, top_eq, lt_finite_iff, lt_finite_iff, bottom_signed, top_signed,
    ← checkedLow_iff lo_eq, ← checkedHigh_iff hi_eq]
  simp only [checkedBounds_eq_some_iff, Prod.exists, exists_and_left, exists_and_right]

/-- The factors of a step fit if those next to the ends of the 64 bits do, as far as the range goes beyond them. -/
theorem factors_fit_iff {k : Keywords} {step : Finite} (fits : checkedBounds (.ofKeywords k) = some ends)
    (whole : isWholeStep step = true) :
    (-(2 ^ 63 : Nat) ≤ (stepFactors ends (toInt64 step)).1 * toInt64 step ∧
        (stepFactors ends (toInt64 step)).2 * toInt64 step < (2 ^ 63 : Nat)) ↔
      (top.le (NumericBounds.ofKeywords k).max = true →
          (top.div (ofInt (toInt64 step))).floor.toInt64 * toInt64 step < (2 ^ 63 : Nat)) ∧
        ((NumericBounds.ofKeywords k).min.le bottom = true →
          -(2 ^ 63 : Nat) ≤ (bottom.div (ofInt (toInt64 step))).ceil.toInt64 * toInt64 step) := by
  obtain ⟨low, high⟩ := checkedBounds_eq_some_iff.mp fits
  obtain ⟨⟨lo, lo_eq⟩, ⟨hi, hi_eq⟩⟩ := NumericBounds.bounded_ofKeywords k
  obtain ⟨s, s_eq, positive⟩ := isWholeStep_iff.mp whole
  obtain ⟨rounded, divisor⟩ := Divisor.of_whole s_eq positive
  have top_iff : top.le (.finite hi) = true ↔ (2 ^ 63 : Nat) * unitsPerOne ≤ hi.signed := by
    obtain ⟨last, top_eq, top_signed⟩ := top_exactly
    rw [top_eq, le_finite_iff, top_signed]
  have bottom_iff : Binary64.le (.finite lo) bottom = true ↔ lo.signed ≤ -(2 ^ 63 : Nat) * unitsPerOne := by
    obtain ⟨first, bottom_eq, bottom_signed⟩ := bottom_exactly
    rw [bottom_eq, le_finite_iff, bottom_signed]
  dsimp only [stepFactors]
  rw [lo_eq, hi_eq, top_iff, bottom_iff, ← most_fits_iff divisor (highEnd_of_checked hi_eq high),
    ← least_fits_iff divisor (lowEnd_of_checked lo_eq low)]
  exact And.comm

/-- Without a step, only the ends are computed. -/
theorem checkedDraw_of_unstated {k : Keywords} (fits : checkedBounds (.ofKeywords k) = some ends)
    (unstated : k.multipleOf.filter (isWholeStep ·) = none) (source : σ) :
    checkedDraw k source = (some (integerDraw k source).1, (integerDraw k source).2) := by
  unfold checkedDraw integerDraw
  rw [integerBounds_of_checked fits]
  simp only [fits, unstated]
  split <;> rfl

theorem checked_written_iff {n : Int} :
    (checked n).map Json.ofInt = some (Json.ofInt (wrapped n)) ↔ ∃ m, checked n = some m := by
  cases fits : checked n with
  | none => exact iff_of_false nofun nofun
  | some m =>
    rw [wrapped_of_checked fits]
    exact iff_of_true rfl ⟨m, rfl⟩

theorem checked_multiple_iff (low least most s : Int) (source : σ) :
    (if most < least then pure (some (.ofInt low)) else do
        return (checked ((← Draw.intBetween least most) * s)).map .ofInt : Draw σ (Option Json)) source =
      (some ((if most < least then pure (.ofInt low) else do
        return .ofInt (wrapped ((← Draw.intBetween least most) * s)) : Draw σ Json) source).1,
       ((if most < least then pure (.ofInt low) else do
        return .ofInt (wrapped ((← Draw.intBetween least most) * s)) : Draw σ Json) source).2) ↔
     (least ≤ most → ∃ m, checked ((Draw.intBetween least most source).1 * s) = some m) := by
  split
  · rename_i empty
    exact iff_of_true rfl fun inhabited => absurd empty (Int.not_lt.mpr inhabited)
  · rename_i inhabited
    rw [forall_prop_of_true (Int.not_lt.mp inhabited), ← checked_written_iff]
    show (Option.map Json.ofInt (checked ((Draw.intBetween least most source).1 * s)),
        (Draw.intBetween least most source).2) =
      (some (Json.ofInt (wrapped ((Draw.intBetween least most source).1 * s))),
        (Draw.intBetween least most source).2) ↔ _
    rw [Prod.mk.injEq, and_iff_left rfl]

/-- With a step, the factor that is drawn is multiplied by it. -/
theorem checkedDraw_iff_of_step {k : Keywords} {step : Binary64} (fits : checkedBounds (.ofKeywords k) = some ends)
    (chosen : k.multipleOf.filter (isWholeStep ·) = some step) (source : σ) :
    checkedDraw k source = (some (integerDraw k source).1, (integerDraw k source).2) ↔
      ((stepFactors ends step.toInt64).1 ≤ (stepFactors ends step.toInt64).2 →
        ∃ m, checked ((Draw.intBetween (stepFactors ends step.toInt64).1 (stepFactors ends step.toInt64).2 source).1 *
          step.toInt64) = some m) := by
  unfold checkedDraw integerDraw
  rw [integerBounds_of_checked fits]
  simp only [fits, chosen, stepFactors]
  exact checked_multiple_iff ends.1 _ _ _ source

/-- With a step, the first and the last multiple must fit, if some factor is drawn. -/
theorem checkedDraw_eq_iff_of_step {k : Keywords} {step : Finite} (fits : checkedBounds (.ofKeywords k) = some ends)
    (chosen : k.multipleOf.filter (isWholeStep ·) = some (.finite step)) :
    (∀ (σ : Type) [Source σ] (source : σ),
        checkedDraw k source = (some (integerDraw k source).1, (integerDraw k source).2)) ↔
      ((stepFactors ends (toInt64 step)).1 ≤ (stepFactors ends (toInt64 step)).2 →
        -(2 ^ 63 : Nat) ≤ (stepFactors ends (toInt64 step)).1 * toInt64 step ∧
          (stepFactors ends (toInt64 step)).2 * toInt64 step < (2 ^ 63 : Nat)) := by
  obtain ⟨_, _, same, whole⟩ := wholeStep_eq_some_iff.mp chosen
  cases same
  obtain ⟨s, s_eq, positive⟩ := isWholeStep_iff.mp whole
  obtain ⟨rounded, divisor⟩ := Divisor.of_whole s_eq positive
  have first := toInt64_bounds ((ofInt ends.1).div (ofInt (toInt64 step))).ceil
  have last := toInt64_bounds ((ofInt ends.2).div (ofInt (toInt64 step))).floor
  have multiples (inhabited : (stepFactors ends (toInt64 step)).1 ≤ (stepFactors ends (toInt64 step)).2) :=
    checked_multiples_iff inhabited (by dsimp only [stepFactors]; omega) divisor.positive
  constructor
  · intro runs inhabited
    refine (multiples inhabited).mp fun σ _ source => ?_
    exact (checkedDraw_iff_of_step fits chosen source).mp (runs σ source) inhabited
  · intro both σ _ source
    refine (checkedDraw_iff_of_step fits chosen source).mpr fun inhabited => ?_
    exact (multiples inhabited).mpr (both inhabited) σ source

end

/-- Between the ends of 64 bits, they are enough for every step. -/
theorem Fits.of_inside {k : Keywords} (min_above : bottom.lt (NumericBounds.ofKeywords k).min = true)
    (min_below : (NumericBounds.ofKeywords k).min.lt top = true)
    (max_above : bottom.lt (NumericBounds.ofKeywords k).max = true)
    (max_below : (NumericBounds.ofKeywords k).max.lt top = true) : Fits k := by
  obtain ⟨min_number, max_number⟩ := (NumericBounds.bounded_ofKeywords k).numeric
  have max_inside : top.le (NumericBounds.ofKeywords k).max = false :=
    (le_eq_false_iff top_exactly.ne_nan max_number).mpr max_below
  have min_inside : (NumericBounds.ofKeywords k).min.le bottom = false :=
    (le_eq_false_iff min_number bottom_exactly.ne_nan).mpr min_above
  refine ⟨fun _ => min_below, fun _ => max_above, fun _ _ _ _ beyond => ?_, fun _ _ _ _ beyond => ?_⟩
  · exact absurd (max_inside.symm.trans beyond) Bool.false_ne_true
  · exact absurd (min_inside.symm.trans beyond) Bool.false_ne_true

/-- A range whose upper end is the first number beyond 64 bits. The last multiple below it, rounded, is beyond it. -/
def acrossTop : Keywords where
  minimum := some ⟨false, lastBelowTop * unitsPerOne, onGrid_lastBelowTop⟩
  maximum := some ⟨false, 2 ^ 63 * unitsPerOne, onGrid_two_pow (by decide)⟩
  multipleOf := some (.whole 1058 (by decide))

/-- A range below the least number of 64 bits. -/
def belowBottom : Keywords where
  minimum := some ⟨true, 2 ^ 63 * unitsPerOne, onGrid_two_pow (by decide)⟩
  maximum := some ⟨true, 2 ^ 63 * unitsPerOne, onGrid_two_pow (by decide)⟩
  exclusiveMaximum := some (.flag true)

end MockApi.Generation
