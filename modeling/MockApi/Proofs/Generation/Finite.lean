import MockApi.Proofs.Binary64.Intervals
import MockApi.Proofs.Generation.Keeping.Leaves

/-!
# Generated numbers are finite

The ends of a range are finite, and so is what is drawn between them: a number that is moved off an end stays
in range, though it is moved by a rounded part of the width (`spreadDraw_isFinite`). A multiple of a step may
be too large.
-/

namespace MockApi

open Binary64

namespace Schema.NumericBounds

/-- The ends of a range are finite. -/
structure Bounded (bounds : NumericBounds) : Prop where
  min : bounds.min.IsFinite
  max : bounds.max.IsFinite

theorem bounded_of_ends {min max : Binary64} (least : min.IsFinite) (most : max.IsFinite)
    (minExclusive maxExclusive : Bool) : Bounded ⟨min, minExclusive, max, maxExclusive⟩ :=
  ⟨least, most⟩

theorem bounded_ofKeywords (k : Keywords) : Bounded (.ofKeywords k) := by
  have span : defaultSpan.IsFinite := by
    obtain ⟨thousand, thousand_eq, -⟩ := ofNat_isFinite (n := 1000) (by decide)
    exact ⟨thousand, thousand_eq⟩
  unfold ofKeywords
  rcases mergeBound k.minimum k.exclusiveMinimum Binary64.max with ⟨_ | lo, minExclusive⟩ <;>
    rcases mergeBound k.maximum k.exclusiveMaximum Binary64.min with ⟨_ | hi, maxExclusive⟩ <;>
    dsimp only
  · exact bounded_of_ends Finite.zero.isFinite span _ _
  · by_cases above : zero.lt hi = true
    · rw [if_pos above]
      exact bounded_of_ends Finite.zero.isFinite hi.isFinite _ _
    · rw [if_neg above]
      dsimp only
      exact bounded_of_ends (thousand_off_isFinite hi).2 hi.isFinite _ _
  · exact bounded_of_ends lo.isFinite (thousand_off_isFinite lo).1 _ _
  · exact bounded_of_ends lo.isFinite hi.isFinite _ _

theorem Bounded.numeric {bounds : NumericBounds} (bounded : bounds.Bounded) : bounds.Numeric := by
  obtain ⟨⟨lo, lo_eq⟩, ⟨hi, hi_eq⟩⟩ := bounded
  exact ⟨lo_eq ▸ finite_ne_nan lo, hi_eq ▸ finite_ne_nan hi⟩

/-- What a range contains is finite. -/
theorem Bounded.of_contains {bounds : NumericBounds} (bounded : bounds.Bounded) {x : Binary64}
    (within : bounds.contains x = true) : x.IsFinite := by
  obtain ⟨⟨lo, lo_eq⟩, ⟨hi, hi_eq⟩⟩ := bounded
  cases x with
  | finite x => exact x.isFinite
  | infinite negative =>
    unfold contains at within
    rw [lo_eq, hi_eq] at within
    cases negative <;> cases bounds.minExclusive <;> cases bounds.maxExclusive <;>
      simp [lt, le, eq] at within
  | nan =>
    unfold contains at within
    rw [lo_eq, hi_eq] at within
    cases bounds.minExclusive <;> cases bounds.maxExclusive <;> simp [lt, le, eq] at within

end Schema.NumericBounds

namespace Generation

open Schema

variable {σ : Type} [Source σ] {bounds : NumericBounds}

theorem unit_gives : (Draw.unit : Draw σ Binary64).Gives fun t => ∃ y : Finite, t = .finite y ∧
    y.negative = false ∧ y.units ≤ unitsPerOne := by
  refine (Draw.gives_any _).bind fun word _ => Draw.gives_pure (unit_isFinite ?_)
  have small := word.toNat_lt
  omega

theorem between_isFinite (bounded : bounds.Bounded) (t : Finite) (positive : t.negative = false)
    (small : t.units ≤ unitsPerOne) : (between bounds t).IsFinite := by
  obtain ⟨⟨lo, lo_eq⟩, ⟨hi, hi_eq⟩⟩ := bounded
  obtain ⟨rest, rest_eq, rest_small⟩ := one_sub t positive small
  obtain ⟨below, below_eq⟩ : (mul lo rest).IsFinite := mul_isFinite rest_small
  obtain ⟨above, above_eq⟩ : (mul hi t).IsFinite := mul_isFinite small
  rw [between, lo_eq, hi_eq, rest_eq, below_eq, above_eq]
  exact clamp_isFinite (add_finite_ne_nan (finite_ne_nan below) above) lo hi

theorem offEnds_isFinite (bounded : bounds.Bounded) {x : Binary64} (finite : x.IsFinite) :
    (offEnds bounds x).IsFinite := by
  obtain ⟨⟨lo, lo_eq⟩, ⟨hi, hi_eq⟩⟩ := bounded
  obtain ⟨nudge, nudge_eq, up, down⟩ := nudge_isFinite lo hi
  unfold offEnds
  rw [lo_eq, hi_eq]
  dsimp only
  rw [nudge_eq]
  obtain ⟨moved, moved_eq⟩ : (if bounds.minExclusive && x.le lo then add lo nudge else x).IsFinite := by
    split
    · exact up
    · exact finite
  rw [moved_eq]
  split
  · exact down
  · exact moved.isFinite

theorem spreadDraw_isFinite (bounded : bounds.Bounded) :
    (spreadDraw bounds : Draw σ Binary64).Gives IsFinite := by
  unfold spreadDraw
  split
  · exact Draw.gives_pure bounded.min
  · refine unit_gives.bind fun t part => (Draw.gives_any _).bind fun _ _ => Draw.gives_pure ?_
    obtain ⟨t, rfl, positive, small⟩ := part
    have moved := offEnds_isFinite bounded (between_isFinite bounded t positive small)
    split
    · rename_i within
      exact bounded.of_contains within
    · exact moved

/-! ### Multiples of a step -/

theorem decimalPlaces_le (step : Binary64) : decimalPlaces step ≤ 10 := by
  have bounded (fuel : Nat) (scaled : Binary64) : decimalPlaces.go fuel scaled ≤ fuel := by
    induction fuel generalizing scaled with
    | zero => exact Nat.le_refl 0
    | succ fuel ih =>
      rw [decimalPlaces.go]
      split
      · exact Nat.succ_le_succ (ih _)
      · exact Nat.zero_le _
  exact bounded 10 step

/-- A rounding keeps a number finite if it can be scaled. -/
theorem roundTo_isFinite {x : Binary64} {places : Nat} (few : places ≤ 10)
    (scaled : (x.mul (powerOfTen places)).IsFinite) : (roundTo x places).IsFinite := by
  obtain ⟨power, power_eq, units⟩ := powerOfTen_isFinite few
  obtain ⟨y, y_eq⟩ := scaled
  obtain ⟨whole, whole_eq⟩ : (Binary64.round y).IsFinite := round_isFinite
  rw [roundTo, y_eq, whole_eq, power_eq]
  refine div_isFinite ?_
  rw [units]
  exact Nat.le_mul_of_pos_left _ (Nat.pow_pos (by decide))

/-- A step with decimal places has a fraction. -/
theorem units_lt_of_decimalPlaces {step : Finite} (places : decimalPlaces step ≠ 0) :
    step.units < 2 ^ 52 * unitsPerOne := by
  refine step.units_lt_of_fraction fun whole => places ?_
  have none : fract (.finite step) = ofRatio step.negative 0 1 := by rw [fract, whole]
  have nothing : billionth.lt (ofRatio step.negative 0 1).abs = false := by
    cases step.negative <;> decide +kernel
  rw [decimalPlaces, decimalPlaces.go, none, nothing]
  rfl

/-- A multiple by a whole number of 64 bits can be scaled by the places of the step. -/
theorem roundTo_multiple_isFinite {factor : Int} (small : factor.natAbs ≤ 2 ^ 63) {step : Finite}
    (finite : ((ofInt factor).mul step).IsFinite) :
    (roundTo ((ofInt factor).mul step) (decimalPlaces step)).IsFinite := by
  refine roundTo_isFinite (decimalPlaces_le step) ?_
  obtain ⟨power, power_eq, power_units⟩ := powerOfTen_isFinite (decimalPlaces_le step)
  obtain ⟨x, x_eq, x_units⟩ := ofInt_isFinite small
  obtain ⟨multiple, multiple_eq⟩ := finite
  rw [multiple_eq, power_eq]
  by_cases places : decimalPlaces step = 0
  · refine mul_isFinite (Nat.le_of_eq ?_)
    rw [power_units, places, Nat.pow_zero, Nat.one_mul]
  · rw [x_eq] at multiple_eq
    refine scaled_isFinite multiple_eq x_units (units_lt_of_decimalPlaces places) ?_
    rw [power_units]
    exact Nat.mul_le_mul_right _ (Nat.pow_le_pow_right (by decide) (decimalPlaces_le step))

/-- The factor is one of those that a multiple is drawn from. -/
structure Factor (bounds : NumericBounds) (step : Finite) (factor : Int) : Prop where
  inhabited : (factorBounds bounds step).2.lt (factorBounds bounds step).1 = false
  above : (factorBounds bounds step).1.toInt64 ≤ factor
  below : factor ≤ (factorBounds bounds step).2.toInt64

/-- Every multiple of the step that may be drawn is finite. -/
def MultiplesFinite (k : Keywords) : Prop :=
  ∀ step : Finite, k.multipleOf = some step → zero.lt step = true →
    ∀ factor, Factor (.ofKeywords k) step factor → ((ofInt factor).mul step).IsFinite

theorem Factor.natAbs_le {step : Finite} {factor : Int} (drawn : Factor bounds step factor) :
    factor.natAbs ≤ 2 ^ 63 := by
  have least := (toInt64_bounds (factorBounds bounds step).1).1
  have most := (toInt64_bounds (factorBounds bounds step).2).2
  have above := drawn.above
  have below := drawn.below
  omega

/-- The multiples of a step that is not large are finite. -/
theorem multiplesFinite_of_small {k : Keywords} {n : Nat} (low : 63 + n + oneExponent < topExponent + 53)
    (small : ∀ step, k.multipleOf = some step → step.units ≤ 2 ^ n * unitsPerOne) : MultiplesFinite k := by
  intro step stated _ factor drawn
  obtain ⟨x, x_eq, x_units⟩ := ofInt_isFinite drawn.natAbs_le
  rw [x_eq]
  exact multiple_isFinite low x_units (small step stated)

theorem multipleDraw_isFinite (bounded : bounds.Bounded) {step : Finite} (positive : zero.lt step)
    (finite : ∀ factor, Factor bounds step factor → ((ofInt factor).mul step).IsFinite) :
    (multipleDraw bounds step : Draw σ Binary64).Gives IsFinite := by
  obtain ⟨low, high⟩ := factorBounds_ne_nan bounded.numeric positive
  unfold multipleDraw
  dsimp only
  split
  · exact Draw.gives_pure bounded.min
  · rename_i inhabited
    have some_left := Bool.eq_false_iff.mpr inhabited
    have ordered := toInt64_mono ((lt_eq_false_iff high low).mp some_left)
    refine (Draw.intBetween_gives ordered).bind fun factor within => Draw.gives_pure ?_
    have drawn : Factor bounds step factor := ⟨some_left, within.1, within.2⟩
    exact roundTo_multiple_isFinite drawn.natAbs_le (finite factor drawn)

/-- What is drawn is a number, if the multiples of the step are finite. -/
theorem numberDraw_isNumber {k : Keywords} (finite : MultiplesFinite k) :
    (numberDraw k : Draw σ Json).Gives fun value => ∃ x, value = .number (.double x) := by
  have bounded := NumericBounds.bounded_ofKeywords k
  have drawn : (numberDraw k : Draw σ Json).Gives fun value => ∃ x, x.IsFinite ∧ value = .ofBinary64 x :=
    numberDraw_gives (fun step stated positive => multipleDraw_isFinite bounded positive
      (finite step stated positive)) (spreadDraw_isFinite bounded)
  refine drawn.mono ?_
  rintro value ⟨x, ⟨y, rfl⟩, rfl⟩
  exact ⟨y, rfl⟩

end Generation

end MockApi
