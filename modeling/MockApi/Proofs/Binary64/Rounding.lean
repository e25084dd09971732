import MockApi.Proofs.Binary64.Order

/-!
# Rounding to the grid

A ratio is rounded by at most half the gap between neighbours (`nearest_error`), and never beyond a number of
the grid (`nearest_le`). It has a finite number next to it unless it lies half a gap or more beyond the
greatest one (`ofRatio_isFinite`), which says where products, quotients and sums are finite.
-/

namespace MockApi.Binary64

/-! ### One rounding -/

theorem spacing_le {units k : Nat} (small : units < 2 ^ (k + 53)) : spacing units ≤ 2 ^ k := by
  apply Nat.pow_le_pow_right Nat.two_pos
  by_cases none : units = 0
  · subst none
    exact Nat.zero_le k
  · have below := (Nat.log2_lt none).mpr small
    omega

theorem spacing_dvd_of_le {units more : Nat} (le : units ≤ more) : spacing units ∣ spacing more := by
  apply Nat.pow_dvd_pow
  by_cases none : units = 0
  · subst none
    exact Nat.zero_le _
  · have logs : units.log2 ≤ more.log2 :=
      (Nat.le_log2 (by omega)).mpr (Nat.le_trans (Nat.log2_self_le none) le)
    omega

theorem halfEven_error (low : Nat) {rest den : Nat} (within : rest < den) :
    2 * (halfEven low rest den * den) ≤ 2 * (low * den + rest) + den ∧
      2 * (low * den + rest) ≤ 2 * (halfEven low rest den * den) + den := by
  have next : (low + 1) * den = low * den + den := Nat.succ_mul low den
  unfold halfEven
  repeat' split
  all_goals omega

/-- Rounding moves a ratio by at most half a gap. -/
theorem nearest_error {num den k : Nat} (positive : 0 < den) (small : num < 2 ^ (k + 53) * den) :
    2 * (nearest num den * den) ≤ 2 * num + 2 ^ k * den ∧
      2 * num ≤ 2 * (nearest num den * den) + 2 ^ k * den := by
  have step_le : spacing (num / den) ≤ 2 ^ k :=
    spacing_le ((Nat.div_lt_iff_lt_mul positive).mpr small)
  have cell : 0 < den * spacing (num / den) := Nat.mul_pos positive (Nat.two_pow_pos _)
  have error := halfEven_error (num / (den * spacing (num / den))) (Nat.mod_lt num cell)
  rw [Nat.div_add_mod'] at error
  have scaled : nearest num den * den = halfEven (num / (den * spacing (num / den)))
      (num % (den * spacing (num / den))) (den * spacing (num / den)) * (den * spacing (num / den)) := by
    rw [nearest, Nat.mul_assoc, Nat.mul_comm (spacing _) den]
  have gap : den * spacing (num / den) ≤ 2 ^ k * den := by
    rw [Nat.mul_comm]
    exact Nat.mul_le_mul_right den step_le
  rw [scaled]
  omega

/-- What is at most a number of the grid is rounded to no more than that. -/
theorem nearest_le {num den bound : Nat} (positive : 0 < den) (le : num ≤ bound * den)
    (onGrid : spacing bound ∣ bound) : nearest num den ≤ bound := by
  have quotient : num / den ≤ bound := Nat.div_le_of_le_mul (by rwa [Nat.mul_comm])
  obtain ⟨cells, rfl⟩ : spacing (num / den) ∣ bound := Nat.dvd_trans (spacing_dvd_of_le quotient) onGrid
  have cell : 0 < den * spacing (num / den) := Nat.mul_pos positive (Nat.two_pow_pos _)
  have within : num ≤ cells * (den * spacing (num / den)) := by
    calc num
      _ ≤ spacing (num / den) * cells * den := le
      _ = cells * (den * spacing (num / den)) := by
        rw [Nat.mul_comm (spacing _), Nat.mul_assoc, Nat.mul_comm (spacing _)]
  have low : num / (den * spacing (num / den)) ≤ cells := Nat.div_le_of_le_mul (by rwa [Nat.mul_comm])
  have rounded : halfEven (num / (den * spacing (num / den))) (num % (den * spacing (num / den)))
      (den * spacing (num / den)) ≤ cells := by
    rcases Nat.lt_or_eq_of_le low with less | full
    · exact Nat.le_trans (halfEven_le _ _ _) less
    · have whole := Nat.div_add_mod' num (den * spacing (num / den))
      rw [full] at whole
      have no_rest : num % (den * spacing (num / den)) = 0 := by omega
      refine Nat.le_of_eq ?_
      rw [no_rest, full, halfEven, if_pos (by omega)]
  rw [nearest, Nat.mul_comm]
  exact Nat.mul_le_mul_left _ rounded

/-- A ratio that is a number of the grid is not moved. -/
theorem nearest_mul {units den : Nat} (positive : 0 < den) (onGrid : spacing units ∣ units) :
    nearest (units * den) den = units := by
  obtain ⟨cells, cells_eq⟩ := onGrid
  have cell : 0 < den * spacing units := Nat.mul_pos positive (Nat.two_pow_pos _)
  have whole : units * den = den * spacing units * cells := by
    rw [Nat.mul_assoc, ← cells_eq, Nat.mul_comm]
  rw [nearest, Nat.mul_div_cancel _ positive]
  have low : units * den / (den * spacing units) = cells := Nat.div_eq_of_eq_mul_right cell whole
  have rest : units * den % (den * spacing units) = 0 := Nat.mod_eq_zero_of_dvd ⟨cells, whole⟩
  rw [low, rest, halfEven, if_pos (by omega), Nat.mul_comm, ← cells_eq]

theorem nearest_of_onGrid {units : Nat} (onGrid : spacing units ∣ units) : nearest units 1 = units := by
  have kept := nearest_mul Nat.one_pos onGrid
  rwa [Nat.mul_one] at kept

/-- A ratio is moved by at most a part in `2 ^ 53`, or by half a unit where that is more. -/
theorem nearest_relative_error (num : Nat) {den : Nat} (positive : 0 < den) :
    2 ^ 53 * (nearest num den * den) ≤ 2 ^ 53 * num + num + 2 ^ 52 * den ∧
      2 ^ 53 * num ≤ 2 ^ 53 * (nearest num den * den) + num + 2 ^ 52 * den := by
  by_cases large : 2 ^ 52 * den ≤ num
  · have quotient : 2 ^ 52 ≤ num / den := (Nat.le_div_iff_mul_le positive).mpr large
    have nonzero : num / den ≠ 0 := Nat.ne_of_gt (Nat.lt_of_lt_of_le (Nat.two_pow_pos 52) quotient)
    have logs : 52 ≤ (num / den).log2 := (Nat.le_log2 nonzero).mpr quotient
    have small : num < 2 ^ ((num / den).log2 - 52 + 53) * den := by
      rw [← Nat.div_lt_iff_lt_mul positive, show (num / den).log2 - 52 + 53 = (num / den).log2 + 1 by omega]
      exact Nat.lt_log2_self
    have gap : 2 ^ 52 * (2 ^ ((num / den).log2 - 52) * den) ≤ num := by
      rw [← Nat.mul_assoc, ← Nat.pow_add, Nat.add_sub_cancel' logs]
      exact (Nat.le_div_iff_mul_le positive).mp (Nat.log2_self_le nonzero)
    have error := nearest_error positive small
    omega
  · have small : num < 2 ^ (0 + 53) * den := by omega
    have error := nearest_error positive small
    omega

/-! ### Numbers in range -/

/-- The greatest finite numbers are multiples of two to this power. -/
def topExponent : Nat := 2045

/-- One has so many binary places behind it. -/
def oneExponent : Nat := 1074

/-- The gap between the greatest finite numbers. -/
def widestGap : Nat := 2 ^ topExponent

theorem unitsLimit_eq : unitsLimit = 2 ^ (topExponent + 53) := by decide +kernel

theorem unitsPerOne_eq : unitsPerOne = 2 ^ oneExponent := by decide +kernel

theorem widestGap_pos : 0 < widestGap := Nat.two_pow_pos topExponent

theorem unitsPerOne_pos : 0 < unitsPerOne := by
  rw [unitsPerOne_eq]
  exact Nat.two_pow_pos oneExponent

theorem two_pow_lt_unitsPerOne {k : Nat} (small : k < oneExponent) : 2 ^ k < unitsPerOne := by
  rw [unitsPerOne_eq]
  exact Nat.pow_lt_pow_right (by decide) small

theorem scaled_lt_two_pow {n k bound : Nat} (few : n ≤ 2 ^ k) (low : k + oneExponent < bound) :
    n * unitsPerOne < 2 ^ bound := by
  rw [unitsPerOne_eq]
  calc n * 2 ^ oneExponent
    _ ≤ 2 ^ k * 2 ^ oneExponent := Nat.mul_le_mul_right _ few
    _ = 2 ^ (k + oneExponent) := by rw [Nat.pow_add]
    _ < 2 ^ bound := Nat.pow_lt_pow_right (by decide) low

/-- A whole number that fits in a significand is on the grid. -/
theorem onGrid_whole {n : Nat} (few : n ≤ 2 ^ 53) : OnGrid (n * unitsPerOne) := by
  constructor
  · rw [unitsLimit_eq]
    exact scaled_lt_two_pow few (by decide)
  · rw [unitsPerOne_eq]
    exact spacing_dvd few

def Finite.whole (n : Nat) (few : n ≤ 2 ^ 53) : Finite := ⟨false, n * unitsPerOne, onGrid_whole few⟩

theorem onGrid_two_pow {k : Nat} (low : k + oneExponent < topExponent + 53) :
    OnGrid (2 ^ k * unitsPerOne) := by
  constructor
  · rw [unitsLimit_eq]
    exact scaled_lt_two_pow (Nat.le_refl _) low
  · rw [unitsPerOne_eq, ← Nat.pow_add, ← Nat.one_mul (2 ^ _)]
    exact spacing_dvd Nat.one_le_two_pow

/-- A number of the grid lies a gap below the power of two above it. -/
theorem add_gap_le {units k : Nat} (grid : spacing units ∣ units) (below : units < 2 ^ (k + 53)) :
    units + 2 ^ k ≤ 2 ^ (k + 53) := by
  by_cases top : 2 ^ (k + 52) ≤ units
  · have nonzero : units ≠ 0 := Nat.ne_of_gt (Nat.lt_of_lt_of_le (Nat.two_pow_pos _) top)
    have logs : k + 52 ≤ units.log2 := (Nat.le_log2 nonzero).mpr top
    have gap : 2 ^ k ∣ spacing units := Nat.pow_dvd_pow 2 (by omega)
    obtain ⟨cells, cells_eq⟩ := Nat.dvd_trans gap grid
    rw [cells_eq, Nat.pow_add] at below
    have few : cells + 1 ≤ 2 ^ 53 := Nat.lt_of_mul_lt_mul_left below
    have room := Nat.mul_le_mul_left (2 ^ k) few
    rwa [Nat.mul_succ, ← cells_eq, ← Nat.pow_add] at room
  · rw [Nat.pow_add] at top ⊢
    omega

/-- A finite number lies a gap below the first one that is too large. -/
theorem Finite.units_add_le (x : Finite) : x.units + widestGap ≤ unitsLimit := by
  obtain ⟨below, onGrid⟩ := x.onGrid
  rw [unitsLimit_eq] at below ⊢
  exact add_gap_le onGrid below

theorem nearest_lt_unitsLimit {num den : Nat} (positive : 0 < den)
    (fits : 2 * num + widestGap * den < 2 * (unitsLimit * den)) : nearest num den < unitsLimit := by
  have small : num < 2 ^ (topExponent + 53) * den := by
    rw [← unitsLimit_eq]
    omega
  have error := (nearest_error positive small).1
  rw [← widestGap] at error
  have scaled : nearest num den * den < unitsLimit * den := by omega
  exact Nat.lt_of_mul_lt_mul_right scaled

def IsFinite (x : Binary64) : Prop := ∃ y : Finite, x = .finite y

theorem Finite.isFinite (x : Finite) : IsFinite x := ⟨x, rfl⟩

section

variable {negative : Bool} {num den : Nat}

theorem ofRatio_isFinite (positive : 0 < den)
    (fits : 2 * num + widestGap * den < 2 * (unitsLimit * den)) : (ofRatio negative num den).IsFinite := by
  rw [ofRatio, dif_pos (nearest_lt_unitsLimit positive fits)]
  exact ⟨_, rfl⟩

/-- A ratio that is no greater than a finite number is next to one. -/
theorem ofRatio_isFinite_of_le (positive : 0 < den) (x : Finite) (le : num ≤ x.units * den) :
    (ofRatio negative num den).IsFinite := by
  have below := Nat.mul_le_mul_right den x.units_add_le
  have gap : 0 < widestGap * den := Nat.mul_pos widestGap_pos positive
  rw [Nat.add_mul] at below
  exact ofRatio_isFinite positive (by omega)

theorem ofRatio_eq_infinite (large : ¬(ofRatio negative num den).IsFinite) :
    ofRatio negative num den = .infinite negative := by
  unfold ofRatio at large ⊢
  split
  · rename_i below
    rw [dif_pos below] at large
    exact absurd ⟨_, rfl⟩ large
  · rfl

theorem units_of_ofRatio {x : Finite} (rounded : ofRatio negative num den = .finite x) :
    x.units = nearest num den ∧ x.negative = negative := by
  unfold ofRatio at rounded
  split at rounded
  · cases rounded
    exact ⟨rfl, rfl⟩
  · cases rounded

end

/-! ### Operations with finite results -/

section

variable {x y : Finite}

theorem mul_isFinite (small : y.units ≤ unitsPerOne) : (mul x y).IsFinite :=
  ofRatio_isFinite_of_le unitsPerOne_pos x (Nat.mul_le_mul_left x.units small)

theorem div_isFinite (large : unitsPerOne ≤ y.units) : (div x y).IsFinite := by
  have positive : 0 < y.units := Nat.lt_of_lt_of_le unitsPerOne_pos large
  rw [div, if_neg (Nat.ne_of_gt positive)]
  exact ofRatio_isFinite_of_le positive x (Nat.mul_le_mul_left x.units large)

theorem add_isFinite (fits : 2 * (x.signed + y.signed).natAbs + widestGap < 2 * unitsLimit) :
    (add x y).IsFinite :=
  ofRatio_isFinite Nat.one_pos (by rwa [Nat.mul_one, Nat.mul_one])

/-- The nearest whole number is at most a half away. -/
theorem round_isFinite : (round x).IsFinite := by
  have magnitude : x.roundInt.natAbs = (2 * x.units + unitsPerOne) / (2 * unitsPerOne) := by
    rw [Finite.roundInt]
    split
    · rw [Int.natAbs_neg, Int.natAbs_natCast]
    · rw [Int.natAbs_natCast]
  have near := Nat.div_mul_le_self (2 * x.units + unitsPerOne) (2 * unitsPerOne)
  rw [← magnitude, Nat.mul_left_comm] at near
  have below := x.units_add_le
  have half : 1 * unitsPerOne < widestGap := scaled_lt_two_pow (k := 0) (by decide) (by decide)
  have fits : 2 * (x.roundInt.natAbs * unitsPerOne) + widestGap * 1 < 2 * (unitsLimit * 1) := by omega
  rw [round, ofWhole]
  exact ofRatio_isFinite Nat.one_pos fits

end

/-- What is kept between finite ends is finite. -/
theorem clamp_isFinite {x : Binary64} (number : x ≠ .nan) (lo hi : Finite) : (clamp x lo hi).IsFinite := by
  unfold clamp
  cases x with
  | nan => exact absurd rfl number
  | finite x =>
    repeat' split
    · exact lo.isFinite
    · exact hi.isFinite
    · exact x.isFinite
  | infinite negative => cases negative <;> simp [lt, IsFinite]

/-! ### Errors of sums and quotients -/

theorem Finite.signed_natAbs (x : Finite) : x.signed.natAbs = x.units := by
  unfold signed
  split
  · rw [Int.natAbs_neg, Int.natAbs_natCast]
  · rw [Int.natAbs_natCast]

theorem Finite.signed_sign (x : Finite) : if x.negative then x.signed ≤ 0 else 0 ≤ x.signed := by
  unfold signed
  cases x.negative <;> simp

section

variable {negative : Bool} {num den : Nat} {x : Finite} {ratio : Int}

/-- The rounded number and the ratio have the same sign. -/
theorem ofRatio_signed (rounded : ofRatio negative num den = .finite x) (magnitude : ratio.natAbs = num)
    (sign : if negative then ratio ≤ 0 else 0 ≤ ratio) :
    x.signed = nearest num den ∧ ratio = num ∨ x.signed = -(nearest num den : Int) ∧ ratio = -(num : Int) := by
  obtain ⟨units, negative_eq⟩ := units_of_ofRatio rounded
  rw [Finite.signed, negative_eq, units]
  cases negative with
  | true =>
    simp only [if_true] at sign ⊢
    exact .inr ⟨trivial, by omega⟩
  | false =>
    simp only [Bool.false_eq_true, if_false] at sign ⊢
    exact .inl ⟨trivial, by omega⟩

theorem ofRatio_error {k : Nat} (rounded : ofRatio negative num den = .finite x) (magnitude : ratio.natAbs = num)
    (sign : if negative then ratio ≤ 0 else 0 ≤ ratio) (positive : 0 < den)
    (small : num < 2 ^ (k + 53) * den) :
    2 * (x.signed * den) ≤ 2 * ratio + (2 ^ k * den : Nat) ∧
      2 * ratio ≤ 2 * (x.signed * den) + (2 ^ k * den : Nat) := by
  have error := nearest_error positive small
  have scaled : ((nearest num den * den : Nat) : Int) = nearest num den * den := Int.natCast_mul _ _
  rcases ofRatio_signed rounded magnitude sign with ⟨signed, exact_eq⟩ | ⟨signed, exact_eq⟩
  · rw [signed]
    omega
  · rw [signed, Int.neg_mul]
    omega

theorem ofRatio_relative_error (rounded : ofRatio negative num den = .finite x) (magnitude : ratio.natAbs = num)
    (sign : if negative then ratio ≤ 0 else 0 ≤ ratio) (positive : 0 < den) :
    (2 ^ 53 : Nat) * (x.signed * den) ≤ (2 ^ 53 : Nat) * ratio + num + (2 ^ 52 * den : Nat) ∧
      (2 ^ 53 : Nat) * ratio ≤ (2 ^ 53 : Nat) * (x.signed * den) + num + (2 ^ 52 * den : Nat) := by
  have error := nearest_relative_error num positive
  have scaled : ((nearest num den * den : Nat) : Int) = nearest num den * den := Int.natCast_mul _ _
  rcases ofRatio_signed rounded magnitude sign with ⟨signed, exact_eq⟩ | ⟨signed, exact_eq⟩
  · rw [signed]
    omega
  · rw [signed, Int.neg_mul]
    omega

end

theorem add_sign (x y : Finite) :
    if (if x.signed + y.signed = 0 then x.negative && y.negative
      else decide (x.signed + y.signed < 0)) = true
      then x.signed + y.signed ≤ 0 else 0 ≤ x.signed + y.signed := by
  by_cases none : x.signed + y.signed = 0
  · simp [none]
  · rw [if_neg none]
    split
    · rename_i below
      exact Int.le_of_lt (of_decide_eq_true below)
    · rename_i above
      exact Int.not_lt.mp fun below => above (decide_eq_true below)

/-- A sum is off by half a gap at most. -/
theorem add_error {x y sum : Finite} {k : Nat} (added : add x y = .finite sum)
    (small : (x.signed + y.signed).natAbs < 2 ^ (k + 53)) :
    2 * sum.signed ≤ 2 * (x.signed + y.signed) + (2 ^ k : Nat) ∧
      2 * (x.signed + y.signed) ≤ 2 * sum.signed + (2 ^ k : Nat) := by
  have error := ofRatio_error added rfl (add_sign x y) Nat.one_pos (by rwa [Nat.mul_one])
  rwa [Nat.mul_one, Int.natCast_one, Int.mul_one] at error

/-- What a quotient is the ratio of, with its sign. -/
theorem div_ratio {x y : Finite} (positive : y.negative = false) :
    (x.signed * unitsPerOne).natAbs = x.units * unitsPerOne ∧
      if (x.negative != y.negative) = true then x.signed * unitsPerOne ≤ 0 else 0 ≤ x.signed * unitsPerOne := by
  have sign := x.signed_sign
  rw [Int.natAbs_mul, x.signed_natAbs, Int.natAbs_natCast, positive]
  refine ⟨rfl, ?_⟩
  cases negative : x.negative with
  | true =>
    rw [negative] at sign
    exact Int.mul_nonpos_of_nonpos_of_nonneg sign (Int.natCast_nonneg _)
  | false =>
    rw [negative] at sign
    exact Int.mul_nonneg sign (Int.natCast_nonneg _)

/-- A quotient is off by a part in `2 ^ 53` at most, or by half a unit. -/
theorem div_error {x y q : Finite} (divided : div x y = .finite q) (positive : y.negative = false)
    (nonzero : 0 < y.units) :
    (2 ^ 53 : Nat) * (q.signed * y.units) ≤
        (2 ^ 53 : Nat) * (x.signed * unitsPerOne) + (x.units * unitsPerOne : Nat) + (2 ^ 52 * y.units : Nat) ∧
      (2 ^ 53 : Nat) * (x.signed * unitsPerOne) ≤
        (2 ^ 53 : Nat) * (q.signed * y.units) + (x.units * unitsPerOne : Nat) + (2 ^ 52 * y.units : Nat) := by
  rw [div, if_neg (Nat.ne_of_gt nonzero)] at divided
  obtain ⟨magnitude, sign⟩ := div_ratio (x := x) positive
  exact ofRatio_relative_error divided magnitude sign nonzero

end MockApi.Binary64
