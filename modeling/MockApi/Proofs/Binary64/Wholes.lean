import MockApi.Proofs.Binary64.Intervals

/-!
# Whole numbers

Whole numbers that fit in a significand are kept exactly, and so are the floor and the ceiling of every finite number.
A quotient is rounded by at most a part in `2 ^ 53` of it (`div_error`). Of whole numbers that fit in a significand the
rounded quotient therefore lies on the same side of every whole number as the exact one, and its floor and its ceiling
are not moved by the rounding (`le_floor_div_iff`, `ceil_div_le_iff`).
-/

namespace MockApi.Binary64

/-! ### Numbers that are kept exactly -/

theorem natCast_unitsPerOne_pos : (0 : Int) < unitsPerOne := Int.natCast_pos.mpr unitsPerOne_pos

theorem units_le_iff {a b : Int} : a * unitsPerOne ≤ b * unitsPerOne ↔ a ≤ b :=
  ⟨fun le => Int.le_of_mul_le_mul_right le natCast_unitsPerOne_pos,
    fun le => Int.mul_le_mul_of_nonneg_right le (Int.le_of_lt natCast_unitsPerOne_pos)⟩

theorem units_lt_iff {a b : Int} : a * unitsPerOne < b * unitsPerOne ↔ a < b := by
  rw [← Int.not_le, ← Int.not_le, units_le_iff]

/-- The number is exactly so many units. -/
def Exactly (x : Binary64) (units : Int) : Prop := ∃ y : Finite, x = .finite y ∧ y.signed = units

theorem Exactly.ne_nan {x : Binary64} {units : Int} (exact_units : x.Exactly units) : x ≠ .nan := by
  obtain ⟨y, rfl, -⟩ := exact_units
  exact finite_ne_nan y

theorem zero_exactly : zero.Exactly (0 * unitsPerOne) := ⟨Finite.zero, rfl, (Int.zero_mul _).symm⟩

theorem Finite.signed_whole {n : Nat} (few : n ≤ 2 ^ 53) : (whole n few).signed = n * unitsPerOne :=
  Int.natCast_mul n unitsPerOne

theorem onGrid_natAbs {n : Int} (few : n.natAbs ≤ 2 ^ 53) : OnGrid (n * unitsPerOne).natAbs := by
  rw [Int.natAbs_mul, Int.natAbs_natCast]
  exact onGrid_whole few

theorem ofRatio_exactly {negative : Bool} {units : Int}
    (sign : if negative then units ≤ 0 else 0 ≤ units) (onGrid : OnGrid units.natAbs) :
    (ofRatio negative units.natAbs 1).Exactly units := by
  have kept := nearest_of_onGrid onGrid.2
  have below : nearest units.natAbs 1 < unitsLimit := by
    rw [kept]
    exact onGrid.1
  obtain ⟨x, rounded⟩ : (ofRatio negative units.natAbs 1).IsFinite := by
    rw [ofRatio, dif_pos below]
    exact ⟨_, rfl⟩
  refine ⟨x, rounded, ?_⟩
  rcases ofRatio_signed rounded rfl sign with ⟨signed, exact_eq⟩ | ⟨signed, exact_eq⟩
  · rw [signed, kept]
    exact exact_eq.symm
  · rw [signed, kept]
    exact exact_eq.symm

theorem ofInt_exactly_of_onGrid {n : Int} (onGrid : OnGrid (n * unitsPerOne).natAbs) :
    (ofInt n).Exactly (n * unitsPerOne) := by
  have magnitude : n.natAbs * unitsPerOne = (n * unitsPerOne).natAbs := by
    rw [Int.natAbs_mul, Int.natAbs_natCast]
  rw [ofInt, magnitude]
  refine ofRatio_exactly ?_ onGrid
  by_cases below : n < 0
  · simp only [below, decide_true, if_true]
    exact Int.mul_nonpos_of_nonpos_of_nonneg (by omega) (by omega)
  · simp only [below, decide_false, Bool.false_eq_true, if_false]
    exact Int.mul_nonneg (by omega) (by omega)

theorem ofInt_exactly {n : Int} (few : n.natAbs ≤ 2 ^ 53) : (ofInt n).Exactly (n * unitsPerOne) :=
  ofInt_exactly_of_onGrid (onGrid_natAbs few)

theorem add_exactly {x y : Finite} (onGrid : OnGrid (x.signed + y.signed).natAbs) :
    (add x y).Exactly (x.signed + y.signed) :=
  ofRatio_exactly (add_sign x y) onGrid

/-! ### Floor and ceiling -/

section

variable {x : Finite} {n : Int}

theorem Finite.le_floorInt_iff : n ≤ x.floorInt ↔ n * unitsPerOne ≤ x.signed := by
  rw [floorInt, Int.fdiv_eq_ediv_of_nonneg _ (Int.natCast_nonneg _), Int.le_ediv_iff_mul_le natCast_unitsPerOne_pos]

theorem Finite.ceilInt_le_iff : x.ceilInt ≤ n ↔ x.signed ≤ n * unitsPerOne := by
  have turned : -n ≤ (-x.signed).fdiv unitsPerOne ↔ -n * unitsPerOne ≤ -x.signed := by
    rw [Int.fdiv_eq_ediv_of_nonneg _ (Int.natCast_nonneg _), Int.le_ediv_iff_mul_le natCast_unitsPerOne_pos]
  rw [Int.neg_mul] at turned
  rw [ceilInt]
  omega

theorem Finite.floorInt_mul_le (x : Finite) : x.floorInt * unitsPerOne ≤ x.signed := le_floorInt_iff.mp (Int.le_refl _)

theorem Finite.le_ceilInt_mul (x : Finite) : x.signed ≤ x.ceilInt * unitsPerOne := ceilInt_le_iff.mp (Int.le_refl _)

theorem Finite.floorInt_of_whole (whole : x.signed = n * unitsPerOne) : x.floorInt = n := by
  rw [floorInt, whole, Int.mul_fdiv_cancel _ (Int.ne_of_gt natCast_unitsPerOne_pos)]

theorem Finite.ceilInt_of_whole (whole : x.signed = n * unitsPerOne) : x.ceilInt = n := by
  rw [ceilInt, whole, ← Int.neg_mul, Int.mul_fdiv_cancel _ (Int.ne_of_gt natCast_unitsPerOne_pos), Int.neg_neg]

/-- A whole number next to a number of the grid is on the grid. -/
theorem Finite.onGrid_near (above : x.signed < (n + 1) * unitsPerOne) (below : (n - 1) * unitsPerOne < x.signed) :
    OnGrid (n.natAbs * unitsPerOne) := by
  have magnitude := x.signed_natAbs
  by_cases whole : x.units % unitsPerOne = 0
  · obtain ⟨m, m_eq⟩ : (unitsPerOne : Int) ∣ x.signed := by
      rw [← Int.dvd_natAbs, magnitude]
      exact Int.natCast_dvd_natCast.mpr (Nat.dvd_of_mod_eq_zero whole)
    rw [m_eq, Int.mul_comm (unitsPerOne : Int)] at above below
    have same : n = m := by
      have less := units_lt_iff.mp above
      have more := units_lt_iff.mp below
      omega
    have units : n.natAbs * unitsPerOne = x.units := by
      rw [same, ← magnitude, m_eq, Int.natAbs_mul, Int.natAbs_natCast, Nat.mul_comm]
    rw [units]
    exact x.onGrid
  · have small := x.units_lt_of_fraction whole
    have upper : (n - 1) * unitsPerOne < (2 ^ 52 : Nat) * unitsPerOne := by
      rw [← Int.natCast_mul]
      omega
    have lower : -((2 ^ 52 : Nat) : Int) * unitsPerOne < (n + 1) * unitsPerOne := by
      rw [Int.neg_mul, ← Int.natCast_mul]
      omega
    have less := units_lt_iff.mp upper
    have more := units_lt_iff.mp lower
    exact onGrid_whole (by omega)

/-- It keeps the sign, and is not rounded. -/
theorem ofWhole_exactly (above : x.signed < (n + 1) * unitsPerOne) (below : (n - 1) * unitsPerOne < x.signed) :
    (ofWhole x.negative n).Exactly (n * unitsPerOne) := by
  have magnitude : n.natAbs * unitsPerOne = (n * unitsPerOne).natAbs := by
    rw [Int.natAbs_mul, Int.natAbs_natCast]
  have onGrid := x.onGrid_near above below
  have sign := x.signed_sign
  have one := natCast_unitsPerOne_pos
  rw [magnitude] at onGrid
  rw [ofWhole, magnitude]
  refine ofRatio_exactly ?_ onGrid
  cases negative : x.negative with
  | true =>
    rw [negative] at sign
    have low : (n - 1) * (unitsPerOne : Int) < 0 * unitsPerOne := by
      rw [Int.zero_mul]
      exact Int.lt_of_lt_of_le below sign
    have small := units_lt_iff.mp low
    exact Int.mul_nonpos_of_nonpos_of_nonneg (by omega) (Int.le_of_lt one)
  | false =>
    rw [negative] at sign
    have high : 0 * (unitsPerOne : Int) < (n + 1) * unitsPerOne := by
      rw [Int.zero_mul]
      exact Int.lt_of_le_of_lt sign above
    have large := units_lt_iff.mp high
    exact Int.mul_nonneg (by omega) (Int.le_of_lt one)

theorem floor_exactly (x : Finite) : (floor x).Exactly (x.floorInt * unitsPerOne) := by
  have least := x.floorInt_mul_le
  have most : x.signed < (x.floorInt + 1) * unitsPerOne :=
    Int.not_le.mp fun above => Int.not_le.mpr (Int.lt_succ _) (Finite.le_floorInt_iff.mpr above)
  refine ofWhole_exactly most ?_
  rw [Int.sub_mul]
  have one := natCast_unitsPerOne_pos
  omega

theorem ceil_exactly (x : Finite) : (ceil x).Exactly (x.ceilInt * unitsPerOne) := by
  have most := x.le_ceilInt_mul
  have least : (x.ceilInt - 1) * unitsPerOne < x.signed :=
    Int.not_le.mp fun below => Int.not_le.mpr (Int.sub_lt_self _ Int.one_pos) (Finite.ceilInt_le_iff.mpr below)
  refine ofWhole_exactly ?_ least
  rw [Int.add_mul]
  have one := natCast_unitsPerOne_pos
  omega

theorem fract_eq_zero_iff : (fract (.finite x)).eq zero = true ↔ x.units % unitsPerOne = 0 := by
  have rounded (y : Finite) (y_eq : ofRatio x.negative (x.units % unitsPerOne) 1 = .finite y) :
      y.units = 0 ↔ x.units % unitsPerOne = 0 := by
    rw [(units_of_ofRatio y_eq).1]
    refine ⟨fun none => ?_, fun none => by rw [none]; rfl⟩
    have error := (nearest_relative_error (x.units % unitsPerOne) Nat.one_pos).2
    omega
  have magnitude (y : Finite) : (finite y).eq zero = true ↔ y.units = 0 := by
    rw [← y.signed_natAbs, Int.natAbs_eq_zero]
    exact decide_eq_true_iff
  rw [fract]
  cases rest : ofRatio x.negative (x.units % unitsPerOne) 1 with
  | finite y => exact (magnitude y).trans (rounded y rest)
  | infinite n =>
    refine iff_of_false nofun fun none => ?_
    rw [none, ofRatio, dif_pos (by decide +kernel)] at rest
    cases rest
  | nan => exact absurd rest (ofRatio_ne_nan _ _ _)

/-! ### Whole numbers of 64 bits -/

/-- A whole number cut off at the ends of the signed 64-bit range. -/
def cut64 (n : Int) : Int := Max.max (-(2 ^ 63 : Nat)) (Min.min ((2 ^ 63 : Nat) - 1) n)

theorem cut64_of_within (least : -(2 ^ 63 : Nat) ≤ n) (most : n < (2 ^ 63 : Nat)) : cut64 n = n := by
  unfold cut64
  omega

theorem cut64_bounds (n : Int) : -(2 ^ 63 : Nat) ≤ cut64 n ∧ cut64 n < (2 ^ 63 : Nat) := by
  unfold cut64
  omega

theorem cut64_of_le (below : n ≤ -(2 ^ 63 : Nat)) : cut64 n = -(2 ^ 63 : Nat) := by
  unfold cut64
  omega

theorem cut64_of_ge (above : (2 ^ 63 : Nat) ≤ n) : cut64 n = (2 ^ 63 : Nat) - 1 := by
  unfold cut64
  omega

theorem cut64_le_iff {m : Int} (least : -(2 ^ 63 : Nat) ≤ m) (most : m < (2 ^ 63 : Nat) - 1) : cut64 n ≤ m ↔ n ≤ m := by
  unfold cut64
  omega

theorem le_cut64_iff {m : Int} (least : -(2 ^ 63 : Nat) < m) (most : m < (2 ^ 63 : Nat)) : m ≤ cut64 n ↔ m ≤ n := by
  unfold cut64
  omega

theorem toInt64_of_exactly {y : Binary64} (exact : y.Exactly (n * unitsPerOne)) : y.toInt64 = cut64 n := by
  obtain ⟨z, rfl, signed⟩ := exact
  rw [toInt64_finite, signed, Int.mul_tdiv_cancel _ (Int.ne_of_gt natCast_unitsPerOne_pos), cut64]

theorem toInt64_floor (x : Finite) : (floor x).toInt64 = cut64 x.floorInt := toInt64_of_exactly (floor_exactly x)

theorem toInt64_ceil (x : Finite) : (ceil x).toInt64 = cut64 x.ceilInt := toInt64_of_exactly (ceil_exactly x)

/-! ### Quotients -/

end

section

variable {x y q : Finite} {a s n : Int}

theorem Finite.not_negative (positive : 0 < x.signed) : x.negative = false := by
  have sign := x.signed_sign
  cases negative : x.negative with
  | false => rfl
  | true =>
    rw [negative] at sign
    exact absurd positive (Int.not_lt.mpr sign)

theorem Finite.negative_of_signed (negative : x.signed < 0) : x.negative = true := by
  have sign := x.signed_sign
  cases positive : x.negative with
  | true => rfl
  | false =>
    rw [positive] at sign
    exact absurd negative (Int.not_lt.mpr sign)

theorem Finite.divisor (positive : 0 < s) (y_eq : y.signed = s * unitsPerOne) :
    y.negative = false ∧ (y.units : Int) = s * unitsPerOne ∧ 0 < y.units := by
  have scaled : 0 < s * unitsPerOne := Int.mul_pos positive natCast_unitsPerOne_pos
  have y_positive := Finite.not_negative (y_eq ▸ scaled)
  rw [Finite.signed_of_not_negative y_positive] at y_eq
  exact ⟨y_positive, y_eq, by omega⟩

section

variable (divided : div x y = .finite q) (positive : 0 < s) (y_eq : y.signed = s * unitsPerOne)
include divided positive y_eq

/-- If the exact quotient is a whole number, it is the quotient. -/
theorem signed_div_of_eq (few : n.natAbs ≤ 2 ^ 53) (x_eq : x.signed = n * s * unitsPerOne) :
    q.signed = n * unitsPerOne := by
  obtain ⟨y_positive, y_units, nonzero⟩ := Finite.divisor positive y_eq
  rw [div, if_neg (Nat.ne_of_gt nonzero)] at divided
  obtain ⟨magnitude, sign⟩ := div_ratio (x := x) y_positive
  have whole : x.signed * unitsPerOne = n * unitsPerOne * y.units := by
    rw [x_eq, y_units, Int.mul_right_comm n, Int.mul_assoc]
  have whole_units : x.units * unitsPerOne = n.natAbs * unitsPerOne * y.units := by
    rw [← magnitude, whole, Int.natAbs_mul, Int.natAbs_mul, Int.natAbs_natCast, Int.natAbs_natCast]
  have kept := nearest_mul nonzero (onGrid_whole few).2
  rw [← whole_units] at kept
  have same : q.signed * y.units = n * unitsPerOne * y.units := by
    rw [← whole]
    rcases ofRatio_signed divided magnitude sign with ⟨signed, exact_eq⟩ | ⟨signed, exact_eq⟩
    · rw [signed, exact_eq, kept, whole_units, Int.natCast_mul _ y.units]
    · rw [signed, exact_eq, kept, whole_units, Int.neg_mul, Int.natCast_mul _ y.units]
  exact Int.eq_of_mul_eq_mul_right (by omega) same

/-- A quotient of whole numbers is off by a part in `2 ^ 53` at most, or by half a unit. -/
theorem whole_div_error (x_eq : x.signed = a * unitsPerOne) :
    (2 ^ 53 : Nat) * (q.signed * s) ≤
        (2 ^ 53 : Nat) * (a * unitsPerOne) + a.natAbs * unitsPerOne + (2 ^ 52 : Nat) * s ∧
      (2 ^ 53 : Nat) * (a * unitsPerOne) ≤
        (2 ^ 53 : Nat) * (q.signed * s) + a.natAbs * unitsPerOne + (2 ^ 52 : Nat) * s := by
  obtain ⟨y_positive, y_units, nonzero⟩ := Finite.divisor positive y_eq
  have one := natCast_unitsPerOne_pos
  have x_units : x.units = a.natAbs * unitsPerOne := by
    rw [← x.signed_natAbs, x_eq, Int.natAbs_mul, Int.natAbs_natCast]
  obtain ⟨upper, lower⟩ := div_error divided y_positive nonzero
  rw [x_eq, x_units, Int.natCast_mul, Int.natCast_mul, Int.natCast_mul, y_units] at upper lower
  constructor
  · refine Int.le_of_mul_le_mul_right ?_ one
    rw [Int.add_mul, Int.add_mul]
    simp only [Int.mul_assoc] at upper ⊢
    omega
  · refine Int.le_of_mul_le_mul_right ?_ one
    rw [Int.add_mul, Int.add_mul]
    simp only [Int.mul_assoc] at lower ⊢
    omega

/-- The quotient lies on the same side of every whole number as the exact one. -/
theorem whole_div_trichotomy (x_eq : x.signed = a * unitsPerOne) (few : a.natAbs < 2 ^ 53)
    (s_few : s.natAbs ≤ 2 ^ 63) (n : Int) :
    n * s < a ∧ n * unitsPerOne < q.signed ∨ n * s = a ∧ n * unitsPerOne = q.signed ∨
      a < n * s ∧ q.signed < n * unitsPerOne := by
  have one := natCast_unitsPerOne_pos
  have exact_div {m : Int} (whole : m * s = a) : q.signed = m * unitsPerOne := by
    have m_few : m.natAbs ≤ a.natAbs := by
      rw [← whole, Int.natAbs_mul]
      exact Nat.le_mul_of_pos_right _ (Int.natAbs_pos.mpr (Int.ne_of_gt positive))
    exact signed_div_of_eq divided positive y_eq (by omega) (by rw [x_eq, whole])
  obtain ⟨upper, lower⟩ := whole_div_error divided positive y_eq x_eq
  have wide : 2 ^ 115 < unitsPerOne := two_pow_lt_unitsPerOne (by decide)
  have part : (a.natAbs + 1 : Int) * unitsPerOne ≤ 2 ^ 53 * unitsPerOne :=
    Int.mul_le_mul_of_nonneg_right (by omega) (Int.le_of_lt one)
  rw [Int.add_mul, Int.one_mul] at part
  rcases Int.lt_trichotomy (n * s) a with less | same | more
  · refine .inl ⟨less, Int.not_le.mp fun above => ?_⟩
    have product : q.signed * s ≤ n * s * unitsPerOne := by
      rw [Int.mul_right_comm]
      exact Int.mul_le_mul_of_nonneg_right above (Int.le_of_lt positive)
    have apart : (n * s + 1) * unitsPerOne ≤ a * unitsPerOne := Int.mul_le_mul_of_nonneg_right less (Int.le_of_lt one)
    rw [Int.add_mul, Int.one_mul] at apart
    omega
  · exact .inr (.inl ⟨same, (exact_div same).symm⟩)
  · refine .inr (.inr ⟨more, Int.not_le.mp fun below => ?_⟩)
    have product : n * s * unitsPerOne ≤ q.signed * s := by
      rw [Int.mul_right_comm]
      exact Int.mul_le_mul_of_nonneg_right below (Int.le_of_lt positive)
    have apart : (a + 1) * unitsPerOne ≤ n * s * unitsPerOne := Int.mul_le_mul_of_nonneg_right more (Int.le_of_lt one)
    rw [Int.add_mul, Int.one_mul] at apart
    omega

end

end

section

variable {a s n : Int} (few : a.natAbs < 2 ^ 53) (positive : 0 < s) (s_few : s.natAbs ≤ 2 ^ 53)
include few positive s_few

/-- A quotient of whole numbers is at least, or at most, the same whole numbers as the exact one. -/
theorem whole_quotient : ∃ q : Finite, (ofInt a).div (ofInt s) = .finite q ∧
      ∀ n, (n * unitsPerOne ≤ q.signed ↔ n * s ≤ a) ∧ (q.signed ≤ n * unitsPerOne ↔ a ≤ n * s) := by
  obtain ⟨x, x_eq, x_signed⟩ := ofInt_exactly (Nat.le_of_lt few)
  obtain ⟨y, y_eq, y_signed⟩ := ofInt_exactly s_few
  obtain ⟨-, y_units, -⟩ := Finite.divisor positive y_signed
  have large : unitsPerOne ≤ y.units := by
    have least := Int.mul_le_mul_of_nonneg_right positive (Int.le_of_lt natCast_unitsPerOne_pos)
    omega
  obtain ⟨q, q_eq⟩ := div_isFinite (x := x) large
  rw [x_eq, y_eq]
  refine ⟨q, q_eq, fun n => ?_⟩
  have sides := whole_div_trichotomy q_eq positive y_signed x_signed few (by omega) n
  omega

theorem le_floor_div_iff : n ≤ ((ofInt a).div (ofInt s)).floor.toInt64 ↔ n * s ≤ a := by
  obtain ⟨q, q_eq, sides⟩ := whole_quotient few positive s_few
  have floor_iff (n : Int) : n ≤ q.floorInt ↔ n * s ≤ a := Finite.le_floorInt_iff.trans (sides n).1
  have least : -2 ^ 53 ≤ q.floorInt := (floor_iff _).mpr (by omega)
  have most : ¬2 ^ 53 ≤ q.floorInt := fun above => by
    have := (floor_iff _).mp above
    omega
  rw [q_eq, toInt64_floor, cut64_of_within (by omega) (by omega), floor_iff]

theorem ceil_div_le_iff : ((ofInt a).div (ofInt s)).ceil.toInt64 ≤ n ↔ a ≤ n * s := by
  obtain ⟨q, q_eq, sides⟩ := whole_quotient few positive s_few
  have ceil_iff (n : Int) : q.ceilInt ≤ n ↔ a ≤ n * s := Finite.ceilInt_le_iff.trans (sides n).2
  have most : q.ceilInt ≤ 2 ^ 53 := (ceil_iff _).mpr (by omega)
  have least : ¬q.ceilInt ≤ -2 ^ 53 := fun below => by
    have := (ceil_iff _).mp below
    omega
  rw [q_eq, toInt64_ceil, cut64_of_within (by omega) (by omega), ceil_iff]

end

end MockApi.Binary64
