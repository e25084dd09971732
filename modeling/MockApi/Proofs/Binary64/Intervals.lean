import MockApi.Binary64.Decimal
import MockApi.Proofs.Binary64.Rounding

/-!
# Numbers between two ends

What is needed to spread numbers over a range: parts of one, and thousandths of the width of the range. A
thousandth is rounded three times, and still an end that is moved by it stays finite (`nudge_isFinite`).
-/

namespace MockApi.Binary64

/-- Whole numbers that fit in a significand are not rounded. -/
theorem ofNat_isFinite {n : Nat} (few : n ≤ 2 ^ 53) : ∃ t : Finite, Binary64.ofNat n = .finite t ∧
    t.negative = false ∧ t.units = n * unitsPerOne := by
  have onGrid := onGrid_whole few
  have nearest_eq := nearest_of_onGrid onGrid.2
  have below : nearest (n * unitsPerOne) 1 < unitsLimit := by
    rw [nearest_eq]
    exact onGrid.1
  refine ⟨⟨false, nearest (n * unitsPerOne) 1, below, spacing_dvd_nearest _ _⟩, ?_, rfl, nearest_eq⟩
  rw [Binary64.ofNat, ofRatio, dif_pos below]

theorem Finite.signed_of_not_negative {x : Finite} (positive : x.negative = false) : x.signed = x.units := by
  rw [signed, if_neg (Bool.eq_false_iff.mp positive)]

theorem Finite.signed_bounds (x : Finite) :
    x.signed + widestGap ≤ unitsLimit ∧ -x.signed + widestGap ≤ unitsLimit := by
  have below := x.units_add_le
  have magnitude := x.signed_natAbs
  omega

theorem neg_finite (x : Finite) : ∃ y : Finite, neg (.finite x) = .finite y ∧ y.signed = -x.signed := by
  refine ⟨⟨!x.negative, x.units, x.onGrid⟩, rfl, ?_⟩
  unfold Finite.signed
  cases x.negative <;> simp

/-- A thousand more or less is no more than a rounding where numbers are large. -/
theorem thousand_off_isFinite (x : Finite) :
    (add x (Binary64.ofNat 1000)).IsFinite ∧ (sub x (Binary64.ofNat 1000)).IsFinite := by
  obtain ⟨thousand, thousand_eq, positive, units⟩ := ofNat_isFinite (n := 1000) (by decide)
  obtain ⟨opposite, opposite_eq, opposite_signed⟩ := neg_finite thousand
  have signed := Finite.signed_of_not_negative positive
  have bounds := x.signed_bounds
  have small : 2000 * unitsPerOne < widestGap := scaled_lt_two_pow (k := 11) (by decide) (by decide)
  rw [thousand_eq, sub, opposite_eq]
  exact ⟨add_isFinite (by omega), add_isFinite (by omega)⟩

/-! ### A thousandth of a width -/

/-- The exponent of the gap between numbers a thousandth as large as the greatest. -/
def partExponent : Nat := 2036

theorem topExponent_eq : topExponent = partExponent + 9 := rfl

theorem widestGap_eq : widestGap = 512 * 2 ^ partExponent := by
  rw [widestGap, topExponent_eq, Nat.pow_add, Nat.mul_comm]

theorem unitsLimit_eq_part : unitsLimit = 2 ^ 62 * 2 ^ partExponent := by
  rw [unitsLimit_eq, topExponent_eq, Nat.add_assoc, Nat.pow_add, Nat.mul_comm]

theorem div_thousand (x : Finite) : ∃ part : Finite, div x (Binary64.ofNat 1000) = .finite part ∧
    2000 * part.signed ≤ 2 * x.signed + 1000 * (2 ^ partExponent : Nat) ∧
    2 * x.signed ≤ 2000 * part.signed + 1000 * (2 ^ partExponent : Nat) := by
  obtain ⟨thousand, thousand_eq, positive, units⟩ := ofNat_isFinite (n := 1000) (by decide)
  have one := unitsPerOne_pos
  rw [thousand_eq]
  obtain ⟨part, part_eq⟩ : (div x thousand).IsFinite := div_isFinite (by omega)
  refine ⟨part, part_eq, ?_⟩
  rw [div, if_neg (by omega)] at part_eq
  obtain ⟨magnitude, sign⟩ := div_ratio (x := x) positive
  have small : x.units * unitsPerOne < 2 ^ (partExponent + 53) * thousand.units := by
    have below := x.units_add_le
    have gap := Nat.two_pow_pos partExponent
    rw [unitsLimit_eq_part] at below
    rw [units, ← Nat.mul_assoc, Nat.pow_add]
    exact Nat.mul_lt_mul_of_pos_right (by omega) one
  obtain ⟨upper, lower⟩ := ofRatio_error part_eq magnitude sign (by omega) small
  -- both sides count units of one
  have one' : (0 : Int) < unitsPerOne := Int.natCast_pos.mpr one
  rw [units] at upper lower
  simp only [Int.natCast_mul, Int.mul_left_comm _ ((1000 : Nat) : Int)] at upper lower
  constructor
  · refine Int.le_of_mul_le_mul_right ?_ one'
    rw [Int.add_mul, Int.mul_assoc, Int.mul_assoc, Int.mul_assoc]
    omega
  · refine Int.le_of_mul_le_mul_right ?_ one'
    rw [Int.add_mul, Int.mul_assoc, Int.mul_assoc, Int.mul_assoc]
    omega

/-- The thousandth of the width that a number is moved by; an end that is moved by it stays finite. -/
theorem nudge_isFinite (lo hi : Finite) : ∃ nudge : Finite,
    sub (div hi (Binary64.ofNat 1000)) (div lo (Binary64.ofNat 1000)) = .finite nudge ∧
      (add lo nudge).IsFinite ∧ (sub hi nudge).IsFinite := by
  obtain ⟨lower, lower_eq, lower_le, le_lower⟩ := div_thousand lo
  obtain ⟨upper, upper_eq, upper_le, le_upper⟩ := div_thousand hi
  obtain ⟨opposite, opposite_eq, opposite_signed⟩ := neg_finite lower
  have lo_bounds := lo.signed_bounds
  have hi_bounds := hi.signed_bounds
  have gap := Nat.two_pow_pos partExponent
  rw [unitsLimit_eq_part, widestGap_eq] at lo_bounds hi_bounds
  rw [lower_eq, upper_eq, sub, opposite_eq]
  have width : (upper.signed + opposite.signed).natAbs < 2 ^ (partExponent + 1 + 53) := by
    rw [Nat.pow_add, Nat.pow_succ]
    omega
  obtain ⟨nudge, nudge_eq⟩ : (add upper opposite).IsFinite := by
    refine add_isFinite ?_
    rw [unitsLimit_eq_part, widestGap_eq]
    omega
  obtain ⟨nudge_le, le_nudge⟩ := add_error nudge_eq width
  obtain ⟨back, back_eq, back_signed⟩ := neg_finite nudge
  rw [Nat.pow_add] at nudge_le le_nudge
  refine ⟨nudge, nudge_eq, ?_, ?_⟩
  · refine add_isFinite ?_
    rw [unitsLimit_eq_part, widestGap_eq]
    omega
  · rw [sub, back_eq]
    refine add_isFinite ?_
    rw [unitsLimit_eq_part, widestGap_eq]
    omega

/-! ### The unit interval -/

theorem spacing_unitsPerOne_dvd : spacing unitsPerOne ∣ unitsPerOne := by
  have onGrid := (onGrid_whole Nat.one_le_two_pow).2
  rwa [Nat.one_mul] at onGrid

theorem one_isFinite : ∃ y : Finite, one = .finite y ∧ y.negative = false ∧ y.units = unitsPerOne := by
  have exact_one := ofNat_isFinite Nat.one_le_two_pow
  rwa [Nat.one_mul] at exact_one

/-- What is missing to one is at most one. -/
theorem one_sub (t : Finite) (positive : t.negative = false) (small : t.units ≤ unitsPerOne) :
    ∃ rest : Finite, sub one t = .finite rest ∧ rest.units ≤ unitsPerOne := by
  obtain ⟨one', one_eq, one_positive, one_units⟩ := one_isFinite
  obtain ⟨opposite, opposite_eq, opposite_signed⟩ := neg_finite t
  have signed := Finite.signed_of_not_negative positive
  have one_signed := Finite.signed_of_not_negative one_positive
  have within : (one'.signed + opposite.signed).natAbs ≤ unitsPerOne * 1 := by omega
  rw [one_eq, sub, opposite_eq]
  obtain ⟨rest, rest_eq⟩ : (add one' opposite).IsFinite := by
    have below := one'.units_add_le
    have magnitude := one'.signed_natAbs
    have gap := widestGap_pos
    exact add_isFinite (by omega)
  refine ⟨rest, rest_eq, ?_⟩
  rw [(units_of_ofRatio rest_eq).1]
  exact nearest_le Nat.one_pos within spacing_unitsPerOne_dvd

/-- A part of one, counted in the parts that a significand has. -/
theorem unit_isFinite {parts : Nat} (few : parts ≤ 2 ^ 53) : ∃ t : Finite,
    ofRatio false (parts * unitsPerOne) (2 ^ 53) = .finite t ∧ t.negative = false ∧
      t.units ≤ unitsPerOne := by
  obtain ⟨one', -, -, units⟩ := one_isFinite
  have positive : 0 < 2 ^ 53 := Nat.two_pow_pos 53
  have within : parts * unitsPerOne ≤ unitsPerOne * 2 ^ 53 := by
    rw [Nat.mul_comm]
    exact Nat.mul_le_mul_left _ few
  obtain ⟨t, t_eq⟩ : (ofRatio false (parts * unitsPerOne) (2 ^ 53)).IsFinite := by
    rw [← units] at within ⊢
    exact ofRatio_isFinite_of_le positive one' within
  obtain ⟨t_units, negative⟩ := units_of_ofRatio t_eq
  refine ⟨t, t_eq, negative, ?_⟩
  rw [t_units]
  exact nearest_le positive within spacing_unitsPerOne_dvd

/-! ### Whole numbers and powers of ten -/

theorem powerOfTen_isFinite {n : Nat} (few : n ≤ 10) : ∃ power : Finite,
    powerOfTen n = .finite power ∧ power.units = 10 ^ n * unitsPerOne := by
  have small : 10 ^ n ≤ 2 ^ 53 := Nat.le_trans (Nat.pow_le_pow_right (by decide) few) (by decide)
  obtain ⟨power, power_eq, -, units⟩ := ofNat_isFinite small
  exact ⟨power, power_eq, units⟩

/-- A whole number is rounded to no more than a number of the grid beyond it. -/
theorem ofInt_isFinite_of_le {n : Int} {most : Nat} (small : n.natAbs ≤ most) (onGrid : OnGrid (most * unitsPerOne)) :
    ∃ x : Finite, ofInt n = .finite x ∧ x.negative = decide (n < 0) ∧ x.units ≤ most * unitsPerOne := by
  have within : n.natAbs * unitsPerOne ≤ most * unitsPerOne * 1 := by
    rw [Nat.mul_one]
    exact Nat.mul_le_mul_right _ small
  have bounded := nearest_le Nat.one_pos within onGrid.2
  have below := Nat.lt_of_le_of_lt bounded onGrid.1
  refine ⟨⟨decide (n < 0), nearest (n.natAbs * unitsPerOne) 1, below, spacing_dvd_nearest _ _⟩, ?_, rfl, bounded⟩
  rw [ofInt, ofRatio, dif_pos below]

/-- Whole numbers of 64 bits are finite. -/
theorem ofInt_isFinite {n : Int} (small : n.natAbs ≤ 2 ^ 63) : ∃ x : Finite,
    ofInt n = .finite x ∧ x.units ≤ 2 ^ 63 * unitsPerOne := by
  obtain ⟨x, x_eq, -, x_units⟩ := ofInt_isFinite_of_le small (onGrid_two_pow (by decide))
  exact ⟨x, x_eq, x_units⟩

/-- A number with a fraction leaves room for it in the significand. -/
theorem Finite.units_lt_of_fraction (x : Finite) (fraction : x.units % unitsPerOne ≠ 0) :
    x.units < 2 ^ 52 * unitsPerOne := by
  have binade : 2 ^ (oneExponent + 52) = 2 ^ 52 * unitsPerOne := by
    rw [Nat.pow_add, Nat.mul_comm, ← unitsPerOne_eq]
  refine Nat.lt_of_not_le fun large => fraction ?_
  rw [← binade] at large
  have nonzero : x.units ≠ 0 := Nat.ne_of_gt (Nat.lt_of_lt_of_le (Nat.two_pow_pos _) large)
  have logs : oneExponent + 52 ≤ x.units.log2 := (Nat.le_log2 nonzero).mpr large
  have whole : unitsPerOne ∣ spacing x.units := by
    rw [unitsPerOne_eq]
    exact Nat.pow_dvd_pow 2 (by omega)
  exact Nat.mod_eq_zero_of_dvd (Nat.dvd_trans whole x.onGrid.2)

/-- A number with a fraction times a whole number of 64 bits can be scaled by ten places. -/
theorem scaled_isFinite {x y product power : Finite} (mul_eq : mul x y = .finite product)
    (x_small : x.units ≤ 2 ^ 63 * unitsPerOne) (y_small : y.units < 2 ^ 52 * unitsPerOne)
    (power_small : power.units ≤ 10 ^ 10 * unitsPerOne) : (mul product power).IsFinite := by
  have onGrid : OnGrid (2 ^ 115 * unitsPerOne) := onGrid_two_pow (by decide)
  let bound : Finite := ⟨false, 2 ^ 149 * unitsPerOne, onGrid_two_pow (by decide)⟩
  have within : x.units * y.units ≤ 2 ^ 115 * unitsPerOne * unitsPerOne :=
    calc x.units * y.units
      _ ≤ 2 ^ 63 * unitsPerOne * (2 ^ 52 * unitsPerOne) := Nat.mul_le_mul x_small (Nat.le_of_lt y_small)
      _ = 2 ^ 115 * unitsPerOne * unitsPerOne := by
        rw [Nat.mul_mul_mul_comm, ← Nat.pow_add, Nat.mul_assoc]
  have product_small : product.units ≤ 2 ^ 115 * unitsPerOne := by
    rw [(units_of_ofRatio mul_eq).1]
    exact nearest_le unitsPerOne_pos within onGrid.2
  refine ofRatio_isFinite_of_le unitsPerOne_pos bound ?_
  calc product.units * power.units
    _ ≤ 2 ^ 115 * unitsPerOne * (10 ^ 10 * unitsPerOne) := Nat.mul_le_mul product_small power_small
    _ ≤ 2 ^ 115 * unitsPerOne * (2 ^ 34 * unitsPerOne) :=
      Nat.mul_le_mul_left _ (Nat.mul_le_mul_right _ (by decide))
    _ = bound.units * unitsPerOne := by
      rw [Nat.mul_mul_mul_comm, ← Nat.pow_add, ← Nat.mul_assoc]

/-- Multiples of a step by whole numbers of 64 bits are finite, unless the step is large itself. -/
theorem multiple_isFinite {x step : Finite} {n : Nat} (low : 63 + n + oneExponent < topExponent + 53)
    (x_small : x.units ≤ 2 ^ 63 * unitsPerOne) (step_small : step.units ≤ 2 ^ n * unitsPerOne) :
    (mul x step).IsFinite := by
  let bound : Finite := ⟨false, 2 ^ (63 + n) * unitsPerOne, onGrid_two_pow low⟩
  refine ofRatio_isFinite_of_le unitsPerOne_pos bound ?_
  calc x.units * step.units
    _ ≤ 2 ^ 63 * unitsPerOne * (2 ^ n * unitsPerOne) := Nat.mul_le_mul x_small step_small
    _ = bound.units * unitsPerOne := by
      rw [Nat.mul_mul_mul_comm, ← Nat.pow_add, ← Nat.mul_assoc]

end MockApi.Binary64
