import MockApi.Json

/-!
# The order of binary64 numbers

The order is total where nothing is "not a number". A JSON number never is.
-/

namespace MockApi

namespace Binary64

theorem le_finite_iff {x y : Finite} : le (.finite x) (.finite y) = true ↔ x.signed ≤ y.signed := by
  simp only [le, lt, eq, Bool.or_eq_true, decide_eq_true_eq]
  omega

theorem lt_finite_iff {x y : Finite} : lt (.finite x) (.finite y) = true ↔ x.signed < y.signed := by
  simp only [lt, decide_eq_true_eq]

theorem lt_eq_false_iff {x y : Binary64} (hx : x ≠ .nan) (hy : y ≠ .nan) :
    x.lt y = false ↔ y.le x = true := by
  cases x with
  | nan => exact absurd rfl hx
  | finite x =>
    cases y with
    | nan => exact absurd rfl hy
    | finite y =>
      simp only [lt, le, eq, decide_eq_false_iff_not, Bool.or_eq_true, decide_eq_true_eq]
      omega
    | infinite n => cases n <;> simp [lt, le, eq]
  | infinite m =>
    cases y with
    | nan => exact absurd rfl hy
    | finite y => cases m <;> simp [lt, le, eq]
    | infinite n => cases m <;> cases n <;> simp [lt, le, eq]

theorem le_eq_false_iff {x y : Binary64} (hx : x ≠ .nan) (hy : y ≠ .nan) :
    x.le y = false ↔ y.lt x = true := by
  have h := lt_eq_false_iff hy hx
  cases hl : y.lt x <;> simp_all

theorem lt_iff_le_and_ne {x y : Binary64} : x.lt y = true ↔ x.le y = true ∧ x.eq y = false := by
  cases x with
  | nan => simp [lt, le, eq]
  | finite x =>
    cases y with
    | nan => simp [lt, le, eq]
    | finite y =>
      simp only [lt, le, eq, decide_eq_true_eq, Bool.or_eq_true, decide_eq_false_iff_not]
      omega
    | infinite n => cases n <;> simp [lt, le, eq]
  | infinite m =>
    cases y with
    | nan => simp [lt, le, eq]
    | finite y => cases m <;> simp [lt, le, eq]
    | infinite n => cases m <;> cases n <;> simp [lt, le, eq]

theorem eq_comm (x y : Binary64) : x.eq y = y.eq x := by
  cases x with
  | nan => cases y <;> rfl
  | finite x =>
    cases y with
    | finite y => exact decide_eq_decide.mpr ⟨Eq.symm, Eq.symm⟩
    | _ => rfl
  | infinite m =>
    cases y with
    | infinite n => cases m <;> cases n <;> rfl
    | _ => rfl

/-! ### Results that are numbers -/

section

variable {x y : Binary64}

theorem finite_ne_nan (x : Finite) : finite x ≠ .nan := nofun

theorem ofRatio_ne_nan (negative : Bool) (num den : Nat) : ofRatio negative num den ≠ .nan := by
  unfold ofRatio
  split <;> nofun

theorem add_finite_ne_nan (hx : x ≠ .nan) (y : Finite) : x.add y ≠ .nan := by
  cases x with
  | finite x => exact ofRatio_ne_nan _ _ _
  | infinite n => nofun
  | nan => exact absurd rfl hx

theorem sub_finite_ne_nan (hx : x ≠ .nan) (y : Finite) : x.sub y ≠ .nan :=
  add_finite_ne_nan hx _

/-- Only zero divided by zero and infinite quotients are not numbers. -/
theorem div_finite_ne_nan (hx : x ≠ .nan) {y : Finite} (nonzero : y.units ≠ 0) : x.div y ≠ .nan := by
  cases x with
  | finite x =>
    rw [div, if_neg nonzero]
    exact ofRatio_ne_nan _ _ _
  | infinite n => nofun
  | nan => exact absurd rfl hx

theorem ofWhole_ne_nan (negative : Bool) (n : Int) : ofWhole negative n ≠ .nan := by
  unfold ofWhole
  exact ofRatio_ne_nan _ _ _

theorem floor_ne_nan (hx : x ≠ .nan) : x.floor ≠ .nan := by
  cases x with
  | finite x => exact ofWhole_ne_nan _ _
  | infinite n => nofun
  | nan => exact absurd rfl hx

theorem ceil_ne_nan (hx : x ≠ .nan) : x.ceil ≠ .nan := by
  cases x with
  | finite x => exact ofWhole_ne_nan _ _
  | infinite n => nofun
  | nan => exact absurd rfl hx

theorem exists_finite (finite : (x matches .finite _) = true) : ∃ y : Finite, x = y := by
  cases x with
  | finite y => exact ⟨y, rfl⟩
  | infinite n => cases finite
  | nan => cases finite

/-! ### Truncation -/

theorem toInt64_finite (x : Finite) : toInt64 x =
    Max.max (-(2 ^ 63 : Nat) : Int) (Min.min ((2 ^ 63 : Nat) - 1) (x.signed.tdiv unitsPerOne)) := by
  have truncated : (if x.negative then -((x.units / unitsPerOne : Nat) : Int) else (x.units / unitsPerOne : Nat)) =
      x.signed.tdiv unitsPerOne := by
    unfold Finite.signed
    split
    · rw [Int.neg_tdiv, Int.ofNat_tdiv]
    · rw [Int.ofNat_tdiv]
  rw [← truncated]
  rfl

theorem toInt64_bounds (x : Binary64) :
    (-(2 ^ 63 : Nat) : Int) ≤ x.toInt64 ∧ x.toInt64 ≤ (2 ^ 63 : Nat) - 1 := by
  cases x with
  | finite x =>
    rw [toInt64_finite]
    omega
  | infinite n => cases n <;> decide
  | nan => decide

/-- Cutting to 64 bits keeps the order. -/
theorem toInt64_mono (le : x.le y) : x.toInt64 ≤ y.toInt64 := by
  cases x with
  | nan => simp [Binary64.le, lt, eq] at le
  | infinite m =>
    cases m with
    | true => exact (toInt64_bounds y).1
    | false =>
      cases y with
      | infinite n => cases n <;> simp_all [Binary64.le, lt, eq]
      | _ => simp [Binary64.le, lt, eq] at le
  | finite x =>
    cases y with
    | nan => simp [Binary64.le, lt, eq] at le
    | infinite n =>
      cases n with
      | false => exact (toInt64_bounds x).2
      | true => simp [Binary64.le, lt, eq] at le
    | finite y =>
      have signed : x.signed ≤ y.signed := by
        simp only [Binary64.le, lt, eq, Bool.or_eq_true, decide_eq_true_eq] at le
        omega
      have positive : 0 < unitsPerOne := Nat.pow_pos Nat.two_pos
      have truncated := Int.tdiv_le_tdiv (Int.natCast_pos.mpr positive) signed
      rw [toInt64_finite, toInt64_finite]
      omega

end

end Binary64

theorem Json.Number.toBinary64_ne_nan (n : Json.Number) : n.toBinary64 ≠ .nan := by
  cases n with
  | whole n =>
    show Binary64.ofInt n ≠ .nan
    unfold Binary64.ofInt
    exact Binary64.ofRatio_ne_nan _ _ _
  | double x => nofun

end MockApi
