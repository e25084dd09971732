import MockApi.Proofs.Binary64.Wholes

/-!
# Whole numbers at the ends of 64 bits

A whole number of 64 bits is rounded to one of 53. So the last ones of the range are rounded beyond it (`top`), and
what is not rounded to `top` lies well below it, with room for the error of a quotient: the whole part of such a
quotient, times the divisor, is in range again (`floor_div_mul_lt`, `le_ceil_div_mul`).
-/

namespace MockApi.Binary64

/-- The first number beyond the upper end of the signed 64-bit range. -/
def top : Binary64 := ofInt (2 ^ 63 : Nat)

/-- The lower end of the signed 64-bit range. -/
def bottom : Binary64 := ofInt (-(2 ^ 63 : Nat))

/-- The greatest double of the signed 64-bit range. -/
def lastBelowTop : Nat := 2 ^ 63 - 2 ^ 10

theorem top_exactly : top.Exactly ((2 ^ 63 : Nat) * unitsPerOne) :=
  ofInt_exactly_of_onGrid <| by
    rw [Int.natAbs_mul, Int.natAbs_natCast, Int.natAbs_natCast]
    exact onGrid_two_pow (by decide)

theorem bottom_exactly : bottom.Exactly (-(2 ^ 63 : Nat) * unitsPerOne) :=
  ofInt_exactly_of_onGrid <| by
    rw [Int.natAbs_mul, Int.natAbs_neg, Int.natAbs_natCast, Int.natAbs_natCast]
    exact onGrid_two_pow (by decide)

theorem onGrid_lastBelowTop : OnGrid (lastBelowTop * unitsPerOne) := by decide +kernel

/-- The whole numbers next to the ends are rounded to the ends. -/
theorem ofInt_ends : ofInt ((2 ^ 63 : Nat) - 1) = top ∧ ofInt ((2 ^ 63 : Nat) - 2) = top ∧
    ofInt (-(2 ^ 63 : Nat) + 1) = bottom := by
  decide +kernel

section

variable {x y q : Finite}

theorem Finite.units_of_below (below : x.units < 2 ^ 63 * unitsPerOne) : x.units ≤ lastBelowTop * unitsPerOne := by
  have power (k : Nat) : 2 ^ (oneExponent + k) = 2 ^ k * unitsPerOne := by
    rw [Nat.pow_add, Nat.mul_comm, ← unitsPerOne_eq]
  have sum : oneExponent + 10 + 53 = oneExponent + 63 := rfl
  rw [← power, ← sum] at below
  have gap := add_gap_le x.onGrid.2 below
  rw [sum, power, power] at gap
  rw [lastBelowTop, Nat.sub_mul]
  omega

theorem Finite.signed_of_below (below : x.signed < (2 ^ 63 : Nat) * unitsPerOne) :
    x.signed ≤ (lastBelowTop * unitsPerOne : Nat) := by
  have magnitude := x.signed_natAbs
  by_cases positive : 0 < x.signed
  · have last := Finite.units_of_below (x := x) (by omega)
    omega
  · omega

theorem Finite.signed_of_above (above : -(2 ^ 63 : Nat) * unitsPerOne < x.signed) :
    -(lastBelowTop * unitsPerOne : Nat) ≤ x.signed := by
  have magnitude := x.signed_natAbs
  by_cases negative : x.signed < 0
  · have last := Finite.units_of_below (x := x) (by omega)
    omega
  · omega

/-- The whole part of a quotient below the end is not rounded beyond the end. -/
theorem whole_part_lt {num t m : Nat} (positive : 0 < t) (few : t ≤ 2 ^ 63)
    (below : num ≤ lastBelowTop * unitsPerOne)
    (part : m * unitsPerOne ≤ nearest (num * unitsPerOne) (t * unitsPerOne)) :
    m * t < 2 ^ 63 := by
  have one := unitsPerOne_pos
  have wide : 2 ^ 115 < unitsPerOne := two_pow_lt_unitsPerOne (by decide)
  have error := (nearest_relative_error (num * unitsPerOne) (Nat.mul_pos positive one)).1
  have scaled := Nat.mul_le_mul_right (t * unitsPerOne) part
  have counted : 2 ^ 53 * (m * t * unitsPerOne) ≤ 2 ^ 53 * num + num + 2 ^ 52 * t := by
    refine Nat.le_of_mul_le_mul_right ?_ one
    calc 2 ^ 53 * (m * t * unitsPerOne) * unitsPerOne
      _ = 2 ^ 53 * (m * unitsPerOne * (t * unitsPerOne)) := by
        rw [Nat.mul_mul_mul_comm m, Nat.mul_assoc, Nat.mul_assoc (m * t)]
      _ ≤ 2 ^ 53 * (num * unitsPerOne) + num * unitsPerOne + 2 ^ 52 * (t * unitsPerOne) :=
        Nat.le_trans (Nat.mul_le_mul_left _ scaled) error
      _ = (2 ^ 53 * num + num + 2 ^ 52 * t) * unitsPerOne := by
        rw [Nat.add_mul, Nat.add_mul, Nat.mul_assoc, Nat.mul_assoc]
  rw [lastBelowTop, Nat.sub_mul] at below
  refine Nat.lt_of_not_le fun beyond => ?_
  have most := Nat.mul_le_mul_right unitsPerOne beyond
  omega

end

/-- A divisor of 64 bits, which may be rounded up. -/
structure Divisor (s rounded : Int) : Prop where
  positive : 0 < s
  le_rounded : s ≤ rounded
  rounded_le : rounded ≤ (2 ^ 63 : Nat)
  exactly : (ofInt s).Exactly (rounded * unitsPerOne)

section

variable {b s rounded : Int} (divisor : Divisor s rounded)
include divisor

theorem Divisor.rounded_pos : 0 < rounded := Int.lt_of_lt_of_le divisor.positive divisor.le_rounded

/-- A quotient has the sign of the dividend, and is in range unless the dividend is rounded to an end. -/
theorem Divisor.quotient (small : b.natAbs ≤ 2 ^ 63) : ∃ q : Finite, (ofInt b).div (ofInt s) = .finite q ∧
    q.negative = decide (b < 0) ∧
      (b.natAbs ≤ lastBelowTop → ∀ m, m * unitsPerOne ≤ q.units → m * rounded.natAbs < 2 ^ 63) := by
  have positive := divisor.rounded_pos
  have few := divisor.rounded_le
  obtain ⟨y, y_eq, y_signed⟩ := divisor.exactly
  obtain ⟨y_positive, y_units, nonzero⟩ := Finite.divisor positive y_signed
  have y_units' : y.units = rounded.natAbs * unitsPerOne := by
    rw [← Int.natAbs_natCast y.units, y_units, Int.natAbs_mul, Int.natAbs_natCast]
  have large : unitsPerOne ≤ y.units := by
    rw [y_units']
    exact Nat.le_mul_of_pos_left _ (Int.natAbs_pos.mpr (Int.ne_of_gt positive))
  obtain ⟨x, x_eq, x_negative, -⟩ := ofInt_isFinite_of_le small (onGrid_two_pow (by decide))
  obtain ⟨q, divided⟩ := div_isFinite (x := x) large
  rw [x_eq, y_eq]
  refine ⟨q, divided, ?_⟩
  rw [div, if_neg (Nat.ne_of_gt nonzero)] at divided
  obtain ⟨q_units, q_negative⟩ := units_of_ofRatio divided
  refine ⟨by rw [q_negative, y_positive, Bool.bne_false, x_negative], fun within m part => ?_⟩
  obtain ⟨x', x'_eq, -, x_units⟩ := ofInt_isFinite_of_le within onGrid_lastBelowTop
  cases x_eq.symm.trans x'_eq
  rw [q_units, y_units'] at part
  exact whole_part_lt (Int.natAbs_pos.mpr (Int.ne_of_gt positive)) (by omega) x_units part

theorem Divisor.mul_natAbs_lt {m : Int} (part : m.natAbs * rounded.natAbs < 2 ^ 63) :
    (m * s).natAbs < 2 ^ 63 := by
  have positive := divisor.positive
  have le := divisor.le_rounded
  rw [Int.natAbs_mul]
  exact Nat.lt_of_le_of_lt (Nat.mul_le_mul_left _ (by omega)) part

theorem Divisor.floor_div_mul_lt (least : -(2 ^ 63 : Nat) ≤ b) (most : b ≤ lastBelowTop) :
    ((ofInt b).div (ofInt s)).floor.toInt64 * s < (2 ^ 63 : Nat) := by
  have below : b ≤ (2 ^ 63 : Nat) := Int.le_trans most (by decide)
  obtain ⟨q, q_eq, sign, part⟩ := divisor.quotient (b := b) (by omega)
  rw [q_eq, toInt64_floor]
  by_cases positive : 0 < cut64 q.floorInt
  · have floor_le : cut64 q.floorInt ≤ q.floorInt := by
      unfold cut64 at positive ⊢
      omega
    have units := Finite.le_floorInt_iff.mp floor_le
    have scaled := Int.mul_pos positive natCast_unitsPerOne_pos
    have q_positive := Finite.not_negative (Int.lt_of_lt_of_le scaled units)
    rw [q_positive] at sign
    have above : 0 ≤ b := Int.not_lt.mp (of_decide_eq_false sign.symm)
    rw [Finite.signed_of_not_negative q_positive, ← Int.natAbs_of_nonneg (Int.le_of_lt positive),
      ← Int.natCast_mul] at units
    have within := divisor.mul_natAbs_lt (part (by omega) _ (Int.ofNat_le.mp units))
    omega
  · have low := Int.mul_nonpos_of_nonpos_of_nonneg (Int.not_lt.mp positive) (Int.le_of_lt divisor.positive)
    exact Int.lt_of_le_of_lt low (by decide)

theorem Divisor.le_ceil_div_mul (least : -(lastBelowTop : Int) ≤ b) (most : b ≤ (2 ^ 63 : Nat)) :
    -(2 ^ 63 : Nat) ≤ ((ofInt b).div (ofInt s)).ceil.toInt64 * s := by
  have above : -(2 ^ 63 : Nat) ≤ b := Int.le_trans (by decide) least
  obtain ⟨q, q_eq, sign, part⟩ := divisor.quotient (b := b) (by omega)
  rw [q_eq, toInt64_ceil]
  by_cases negative : cut64 q.ceilInt < 0
  · have le_ceil : q.ceilInt ≤ cut64 q.ceilInt := by
      unfold cut64 at negative ⊢
      omega
    have units := Finite.ceilInt_le_iff.mp le_ceil
    have scaled := Int.mul_neg_of_neg_of_pos negative natCast_unitsPerOne_pos
    have magnitude := q.signed_natAbs
    have size : (cut64 q.ceilInt).natAbs * unitsPerOne = (cut64 q.ceilInt * unitsPerOne).natAbs := by
      rw [Int.natAbs_mul, Int.natAbs_natCast]
    have q_negative := Finite.negative_of_signed (Int.lt_of_le_of_lt units scaled)
    rw [q_negative] at sign
    have below : b < 0 := of_decide_eq_true sign.symm
    have within := divisor.mul_natAbs_lt (part (by omega) (cut64 q.ceilInt).natAbs (by omega))
    omega
  · have high := Int.mul_nonneg (Int.not_lt.mp negative) (Int.le_of_lt divisor.positive)
    exact Int.le_trans (by decide) high

end

theorem Divisor.of_whole {x : Finite} {m : Int} (whole : x.signed = m * unitsPerOne) (positive : 0 < m) :
    ∃ rounded, Divisor (toInt64 x) rounded := by
  rw [toInt64_of_exactly ⟨x, rfl, whole⟩]
  by_cases small : m < (2 ^ 63 : Nat)
  · have onGrid : OnGrid (m * unitsPerOne).natAbs := by
      rw [← whole, x.signed_natAbs]
      exact x.onGrid
    rw [cut64_of_within (by omega) (by omega)]
    exact ⟨m, positive, Int.le_refl m, Int.le_of_lt small, ofInt_exactly_of_onGrid onGrid⟩
  · rw [cut64_of_ge (Int.not_lt.mp small)]
    exact ⟨(2 ^ 63 : Nat), by decide, by decide, Int.le_refl _, ofInt_ends.1 ▸ top_exactly⟩

end MockApi.Binary64
