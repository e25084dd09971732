import MockApi.Power

/-!
# Binary64 numbers

Every finite binary64 number is a whole multiple of the smallest positive one, `2 ^ -1074`. A
finite number is therefore kept as a sign and that multiple, and an operation is exact arithmetic
on whole numbers followed by one rounding to the grid (`Binary64.ofRatio`). No machine float is
involved, so the arithmetic reduces in proofs.
-/

namespace MockApi

namespace Binary64

def unitsPerOne : Nat := 2 ^ 1074

/-- The first multiple too large for a finite number: `2 ^ 1024`. -/
def unitsLimit : Nat := 2 ^ 2098

/-- The gap between neighbours on the grid at a magnitude: a significand has 53 bits. -/
def spacing (units : Nat) : Nat := 2 ^ (units.log2 - 52)

/-- The magnitudes that have a finite binary64 form. -/
def OnGrid (units : Nat) : Prop := units < unitsLimit ∧ spacing units ∣ units

instance (units : Nat) : Decidable (OnGrid units) := inferInstanceAs (Decidable (_ ∧ _))

theorem onGrid_zero : OnGrid 0 := by decide +kernel

/-- A finite binary64 number. The two zeros are different numbers that compare equal. -/
structure Finite where
  negative : Bool
  units : Nat
  onGrid : OnGrid units
deriving DecidableEq

def halfEven (low rest den : Nat) : Nat :=
  if 2 * rest < den then low
  else if den < 2 * rest then low + 1
  else if low % 2 = 0 then low else low + 1

/-- The magnitude on the unbounded grid nearest to `num / den` units, ties to even. -/
def nearest (num den : Nat) : Nat :=
  let step := spacing (num / den)
  halfEven (num / (den * step)) (num % (den * step)) (den * step) * step

theorem log2_mul_two_pow (m k : Nat) (hm : m ≠ 0) : (m * 2 ^ k).log2 = m.log2 + k := by
  have hk : 0 < 2 ^ k := Nat.two_pow_pos k
  have hmk : m * 2 ^ k ≠ 0 := Nat.mul_ne_zero hm (by omega)
  apply (Nat.log2_eq_iff hmk).2
  have h1 := Nat.log2_self_le hm
  have h2 := Nat.lt_log2_self (n := m)
  constructor
  · rw [Nat.pow_add]; exact Nat.mul_le_mul_right _ h1
  · rw [show m.log2 + k + 1 = (m.log2 + 1) + k by omega, Nat.pow_add]
    exact Nat.mul_lt_mul_of_pos_right h2 hk

theorem spacing_dvd {m k : Nat} (hm : m ≤ 2 ^ 53) : spacing (m * 2 ^ k) ∣ m * 2 ^ k := by
  unfold spacing
  by_cases h0 : m = 0
  · subst h0; simp
  rw [log2_mul_two_pow m k h0]
  rcases Nat.lt_or_eq_of_le hm with h | h
  · have : m.log2 < 53 := (Nat.log2_lt h0).2 h
    exact Nat.dvd_trans (Nat.pow_dvd_pow 2 (by omega)) (Nat.dvd_mul_left _ _)
  · subst h
    rw [Nat.log2_two_pow, ← Nat.pow_add]
    exact Nat.pow_dvd_pow 2 (by omega)

theorem halfEven_le (low rest den : Nat) : halfEven low rest den ≤ low + 1 := by
  unfold halfEven; split <;> (try split) <;> (try split) <;> omega

theorem spacing_dvd_nearest (num den : Nat) : spacing (nearest num den) ∣ nearest num den := by
  unfold nearest
  apply spacing_dvd (k := (num / den).log2 - 52)
  refine Nat.le_trans (halfEven_le _ _ _) ?_
  rw [← Nat.div_div_eq_div_mul]
  generalize num / den = q
  unfold spacing
  have : q / 2 ^ (q.log2 - 52) < 2 ^ 53 := by
    rw [Nat.div_lt_iff_lt_mul (Nat.two_pow_pos _), ← Nat.pow_add]
    by_cases hq : q = 0
    · subst hq; exact Nat.two_pow_pos _
    · exact Nat.lt_of_lt_of_le (Nat.lt_log2_self (n := q))
        (Nat.pow_le_pow_right (by omega) (by omega))
  omega

end Binary64

inductive Binary64
  | finite (x : Binary64.Finite)
  | infinite (negative : Bool)
  | nan
deriving DecidableEq

namespace Binary64

/-- The number nearest to `num / den` units, with the given sign. -/
def ofRatio (negative : Bool) (num den : Nat) : Binary64 :=
  if h : nearest num den < unitsLimit then
    .finite ⟨negative, nearest num den, h, spacing_dvd_nearest num den⟩
  else .infinite negative

namespace Finite

def zero : Finite := ⟨false, 0, onGrid_zero⟩

instance : Inhabited Finite := ⟨zero⟩

def signed (x : Finite) : Int := if x.negative then -(x.units : Int) else x.units

def floorInt (x : Finite) : Int := x.signed.fdiv unitsPerOne

def ceilInt (x : Finite) : Int := -((-x.signed).fdiv unitsPerOne)

/-- The nearest whole number; a half goes away from zero. -/
def roundInt (x : Finite) : Int :=
  let magnitude : Int := ((2 * x.units + unitsPerOne) / (2 * unitsPerOne) : Nat)
  if x.negative then -magnitude else magnitude

def isWhole (x : Finite) : Bool := x.units % unitsPerOne == 0

end Finite

def ofInt (n : Int) : Binary64 := ofRatio (decide (n < 0)) (n.natAbs * unitsPerOne) 1

def ofNat (n : Nat) : Binary64 := ofRatio false (n * unitsPerOne) 1

def ofWhole (negative : Bool) (n : Int) : Binary64 := ofRatio negative (n.natAbs * unitsPerOne) 1

def zero : Binary64 := .finite Finite.zero

def one : Binary64 := ofNat 1

def billionth : Binary64 := ofRatio false unitsPerOne (10 ^ 9)

instance : Inhabited Binary64 := ⟨zero⟩

instance : Coe Finite Binary64 := ⟨.finite⟩

def isNegative : Binary64 → Bool
  | .finite x => x.negative
  | .infinite n => n
  | .nan => false

/-! ### Order -/

def lt : Binary64 → Binary64 → Bool
  | .finite x, .finite y => decide (x.signed < y.signed)
  | .finite _, .infinite n => !n
  | .infinite n, .finite _ => n
  | .infinite m, .infinite n => m && !n
  | _, _ => false

def eq : Binary64 → Binary64 → Bool
  | .finite x, .finite y => decide (x.signed = y.signed)
  | .infinite m, .infinite n => m == n
  | _, _ => false

def le (x y : Binary64) : Bool := lt x y || eq x y

/-- The larger; of a number and what is not one, the number. -/
def max : Binary64 → Binary64 → Binary64
  | .nan, y => y
  | x, .nan => x
  | x, y => if lt x y then y else x

def min : Binary64 → Binary64 → Binary64
  | .nan, y => y
  | x, .nan => x
  | x, y => if lt y x then y else x

def clamp (x lo hi : Binary64) : Binary64 :=
  if lt x lo then lo else if lt hi x then hi else x

/-! ### Arithmetic -/

def neg : Binary64 → Binary64
  | .finite x => .finite ⟨!x.negative, x.units, x.onGrid⟩
  | .infinite n => .infinite (!n)
  | .nan => .nan

def abs : Binary64 → Binary64
  | .finite x => .finite ⟨false, x.units, x.onGrid⟩
  | .infinite _ => .infinite false
  | .nan => .nan

/-- An exact zero sum is negative only when both terms are. -/
def add : Binary64 → Binary64 → Binary64
  | .finite x, .finite y =>
    let sum := x.signed + y.signed
    ofRatio (if sum = 0 then x.negative && y.negative else decide (sum < 0)) sum.natAbs 1
  | .finite _, .infinite n => .infinite n
  | .infinite n, .finite _ => .infinite n
  | .infinite m, .infinite n => if m == n then .infinite m else .nan
  | _, _ => .nan

def sub (x y : Binary64) : Binary64 := add x (neg y)

def mul : Binary64 → Binary64 → Binary64
  | .finite x, .finite y => ofRatio (x.negative != y.negative) (x.units * y.units) unitsPerOne
  | .finite x, .infinite n => if x.units = 0 then .nan else .infinite (x.negative != n)
  | .infinite n, .finite x => if x.units = 0 then .nan else .infinite (x.negative != n)
  | .infinite m, .infinite n => .infinite (m != n)
  | _, _ => .nan

def div : Binary64 → Binary64 → Binary64
  | .finite x, .finite y =>
    if y.units = 0 then
      if x.units = 0 then .nan else .infinite (x.negative != y.negative)
    else ofRatio (x.negative != y.negative) (x.units * unitsPerOne) y.units
  | .finite x, .infinite n => .finite ⟨x.negative != n, 0, onGrid_zero⟩
  | .infinite n, .finite x => .infinite (x.negative != n)
  | _, _ => .nan

def floor : Binary64 → Binary64
  | .finite x => ofWhole x.negative x.floorInt
  | x => x

def ceil : Binary64 → Binary64
  | .finite x => ofWhole x.negative x.ceilInt
  | x => x

def round : Binary64 → Binary64
  | .finite x => ofWhole x.negative x.roundInt
  | x => x

def fract : Binary64 → Binary64
  | .finite x => ofRatio x.negative (x.units % unitsPerOne) 1
  | _ => .nan

/-! ### To whole numbers of 64 bits -/

/-- Truncation toward zero, then saturation at the ends of the signed 64-bit range. -/
def toInt64 : Binary64 → Int
  | .finite x =>
    let magnitude : Int := (x.units / unitsPerOne : Nat)
    Max.max (-(2 ^ 63 : Nat)) (Min.min ((2 ^ 63 : Nat) - 1) (if x.negative then -magnitude else magnitude))
  | .infinite true => -(2 ^ 63 : Nat)
  | .infinite false => (2 ^ 63 : Nat) - 1
  | .nan => 0

def toNat64 : Binary64 → Nat
  | .finite x => if x.negative then 0 else Min.min (2 ^ 64 - 1) (x.units / unitsPerOne)
  | .infinite true => 0
  | .infinite false => 2 ^ 64 - 1
  | .nan => 0

end Binary64

end MockApi
