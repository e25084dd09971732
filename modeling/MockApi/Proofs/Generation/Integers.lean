import MockApi.Proofs.Binary64.Wholes
import MockApi.Proofs.Generation.Draws
import MockApi.Proofs.Schema.Ranges
import MockApi.Random.Script
import Mathlib.Order.Bounds.Basic

/-!
# Integers of a range

An integer is drawn between whole ends, and a multiple of a step by its factor. Where the node states whole numbers that
fit in a significand, nothing is rounded on the way: an integer that suits the node is drawn if there is one
(`integerDraw_suits`).
-/

namespace MockApi.Generation

open Schema Binary64

/-! ### What is asked -/

/-- What a node states of its numbers are whole numbers, and all of them leave a bit of a significand free. -/
structure WholeNumbers (k : Keywords) : Prop where
  bounds : ∀ side : Side, ∀ x ∈ side.stated k, ∃ n : Int, x.signed = n * unitsPerOne ∧ n.natAbs ≤ 2 ^ 52
  step : ∀ x, k.multipleOf = some x → ∃ n : Int, x.signed = n * unitsPerOne ∧ 1 ≤ n ∧ n.natAbs ≤ 2 ^ 52

/-- A number is not below the range. A lower end that is not stated is zero, or a thousand below an upper end that is
not positive. -/
structure AtLeast (k : Keywords) (n : Int) : Prop where
  stated : Side.low.Meets k (n * unitsPerOne)
  fromZero : Side.low.stated k = [] → (∀ x ∈ Side.high.stated k, 0 < x.signed) → 0 ≤ n
  fromSpan : Side.low.stated k = [] → (∃ x ∈ Side.high.stated k, x.signed ≤ 0) →
    ∃ x ∈ Side.high.stated k, x.signed ≤ (n + 1000) * unitsPerOne

/-- A number is not above the range. An upper end that is not stated is a thousand above the lower one. -/
structure AtMost (k : Keywords) (n : Int) : Prop where
  stated : Side.high.Meets k (n * unitsPerOne)
  toThousand : Side.high.stated k = [] → Side.low.stated k = [] → n ≤ 1000
  toSpan : Side.high.stated k = [] → Side.low.stated k ≠ [] →
    ∃ x ∈ Side.low.stated k, (n - 1000) * unitsPerOne ≤ x.signed

structure Suits (k : Keywords) (n : Int) : Prop where
  atLeast : AtLeast k n
  atMost : AtMost k n
  multiple : ∀ step, k.multipleOf = some step → step.signed ∣ n * unitsPerOne

/-! ### The ends of the range -/

section

variable {k : Keywords} {bounds : NumericBounds} {x : Finite} {b n : Int}

theorem wrapped_of_within (least : -(2 ^ 63 : Nat) ≤ n) (most : n < (2 ^ 63 : Nat)) : wrapped n = n := by
  unfold wrapped
  rw [Int.bmod_def]
  omega

theorem integerBounds_low (min_eq : bounds.min.Exactly (b * unitsPerOne)) (few : b.natAbs < 2 ^ 53) :
    (integerBounds bounds).1 = if bounds.minExclusive then b + 1 else b := by
  obtain ⟨x, x_eq, whole⟩ := min_eq
  dsimp only [integerBounds]
  rw [x_eq, toInt64_floor, toInt64_ceil, Finite.floorInt_of_whole whole, Finite.ceilInt_of_whole whole,
    cut64_of_within (by omega) (by omega), wrapped_of_within (by omega) (by omega)]

theorem integerBounds_high (max_eq : bounds.max.Exactly (b * unitsPerOne)) (few : b.natAbs < 2 ^ 53) :
    (integerBounds bounds).2 = if bounds.maxExclusive then b - 1 else b := by
  obtain ⟨x, x_eq, whole⟩ := max_eq
  dsimp only [integerBounds]
  rw [x_eq, toInt64_floor, toInt64_ceil, Finite.floorInt_of_whole whole, Finite.ceilInt_of_whole whole,
    cut64_of_within (by omega) (by omega), wrapped_of_within (by omega) (by omega)]

theorem merged_low_iff {strict : Bool} (merged : Side.low.Merged k (some x) strict)
    (whole : x.signed = b * unitsPerOne) :
    (if strict then b + 1 else b) ≤ n ↔ Side.low.Meets k (n * unitsPerOne) := by
  rw [← merged.iff, whole]
  cases strict with
  | true => exact units_lt_iff.symm
  | false => exact units_le_iff.symm

theorem merged_high_iff {strict : Bool} (merged : Side.high.Merged k (some x) strict)
    (whole : x.signed = b * unitsPerOne) :
    n ≤ (if strict then b - 1 else b) ↔ Side.high.Meets k (n * unitsPerOne) := by
  rw [← merged.iff, whole]
  cases strict with
  | true => exact Int.le_sub_one_iff.trans units_lt_iff.symm
  | false => exact units_le_iff.symm

theorem defaultSpan_exactly : defaultSpan.Exactly (1000 * unitsPerOne) := by
  obtain ⟨thousand, thousand_eq, positive, units⟩ := ofNat_isFinite (n := 1000) (by decide)
  refine ⟨thousand, thousand_eq, ?_⟩
  rw [Finite.signed_of_not_negative positive, units, Int.natCast_mul]
  rfl

theorem add_defaultSpan (whole : x.signed = b * unitsPerOne) (few : b.natAbs ≤ 2 ^ 52) :
    (add x defaultSpan).Exactly ((b + 1000) * unitsPerOne) := by
  obtain ⟨thousand, thousand_eq, units⟩ := defaultSpan_exactly
  have sum : x.signed + thousand.signed = (b + 1000) * unitsPerOne := by rw [whole, units, Int.add_mul]
  rw [thousand_eq, ← sum]
  refine add_exactly ?_
  rw [sum]
  exact onGrid_natAbs (by omega)

theorem sub_defaultSpan (whole : x.signed = b * unitsPerOne) (few : b.natAbs ≤ 2 ^ 52) :
    (sub x defaultSpan).Exactly ((b - 1000) * unitsPerOne) := by
  obtain ⟨thousand, thousand_eq, units⟩ := defaultSpan_exactly
  obtain ⟨opposite, opposite_eq, opposite_signed⟩ := neg_finite thousand
  have sum : x.signed + opposite.signed = (b - 1000) * unitsPerOne := by
    rw [whole, opposite_signed, units, Int.sub_mul, Int.sub_eq_add_neg]
  rw [thousand_eq, sub, opposite_eq, ← sum]
  refine add_exactly ?_
  rw [sum]
  exact onGrid_natAbs (by omega)

theorem zero_lt_iff : zero.lt x = true ↔ 0 < x.signed := lt_finite_iff

/-- The lower end is the least whole number of the range. -/
theorem integerBounds_low_le_iff (whole : WholeNumbers k) :
    (integerBounds (.ofKeywords k)).1.natAbs < 2 ^ 53 ∧
      ∀ n, (integerBounds (.ofKeywords k)).1 ≤ n ↔ AtLeast k n := by
  obtain ⟨lower, minExclusive, upper, maxExclusive, low, high, same⟩ := NumericBounds.ofKeywords_merged k
  rw [same]
  cases lower with
  | some lo =>
    obtain ⟨b, b_eq, few⟩ := whole.bounds .low lo low.tightest.1
    have stated := List.ne_nil_of_mem low.tightest.1
    rw [integerBounds_low ⟨lo, rfl, b_eq⟩ (by omega)]
    refine ⟨by split <;> omega, fun n => (merged_low_iff low b_eq).trans ⟨fun meets => ?_, AtLeast.stated⟩⟩
    exact ⟨meets, fun none => absurd none stated, fun none => absurd none stated⟩
  | none =>
    have unstated := low.stated_eq_nil
    have meets (n : Int) : Side.low.Meets k (n * unitsPerOne) := low.meets
    cases low
    have low_eq {b : Int} (exact_end : (NumericBounds.lowEnd none upper).Exactly (b * unitsPerOne))
        (few : b.natAbs < 2 ^ 53) :
        (integerBounds ⟨NumericBounds.lowEnd none upper, false, NumericBounds.highEnd none upper,
          maxExclusive⟩).1 = b :=
      integerBounds_low exact_end few
    have from_zero (positive : ∀ x ∈ Side.high.stated k, 0 < x.signed) (n : Int) : 0 ≤ n ↔ AtLeast k n := by
      constructor
      · intro above
        refine ⟨meets n, fun _ _ => above, fun _ ⟨x, mem, negative⟩ => ?_⟩
        exact absurd (positive x mem) (Int.not_lt.mpr negative)
      · intro least
        exact least.fromZero unstated positive
    cases upper with
    | none =>
      rw [low_eq zero_exactly (by decide)]
      refine ⟨by decide, from_zero fun x mem => ?_⟩
      rw [high.stated_eq_nil] at mem
      exact absurd mem List.not_mem_nil
    | some hi =>
      obtain ⟨mem, tightest⟩ := high.tightest
      obtain ⟨b, b_eq, few⟩ := whole.bounds .high hi mem
      by_cases positive : zero.lt hi = true
      · have zero_end : (NumericBounds.lowEnd none (some hi)).Exactly (0 * unitsPerOne) := by
          rw [NumericBounds.lowEnd, if_pos positive]
          exact zero_exactly
        rw [low_eq zero_end (by decide)]
        exact ⟨by decide, from_zero fun x stated => Int.lt_of_lt_of_le (zero_lt_iff.mp positive) (tightest x stated)⟩
      · have span_end : (NumericBounds.lowEnd none (some hi)).Exactly ((b - 1000) * unitsPerOne) := by
          rw [NumericBounds.lowEnd, if_neg positive]
          exact sub_defaultSpan b_eq few
        rw [low_eq span_end (by omega)]
        have negative : hi.signed ≤ 0 := Int.not_lt.mp (mt zero_lt_iff.mpr positive)
        refine ⟨by omega, fun n => ⟨fun above => ?_, fun least => ?_⟩⟩
        · refine ⟨meets n, fun _ all => absurd (all hi mem) (Int.not_lt.mpr negative), fun _ _ => ⟨hi, mem, ?_⟩⟩
          rw [b_eq, units_le_iff]
          omega
        · obtain ⟨x, stated, span⟩ := least.fromSpan unstated ⟨hi, mem, negative⟩
          have within := Int.le_trans (tightest x stated) span
          rw [b_eq, units_le_iff] at within
          omega

/-- The upper end is the greatest whole number of the range. -/
theorem le_integerBounds_high_iff (whole : WholeNumbers k) :
    (integerBounds (.ofKeywords k)).2.natAbs < 2 ^ 53 ∧
      ∀ n, n ≤ (integerBounds (.ofKeywords k)).2 ↔ AtMost k n := by
  obtain ⟨lower, minExclusive, upper, maxExclusive, low, high, same⟩ := NumericBounds.ofKeywords_merged k
  rw [same]
  cases upper with
  | some hi =>
    obtain ⟨b, b_eq, few⟩ := whole.bounds .high hi high.tightest.1
    have stated := List.ne_nil_of_mem high.tightest.1
    rw [integerBounds_high ⟨hi, by cases lower <;> rfl, b_eq⟩ (by omega)]
    refine ⟨by split <;> omega, fun n => (merged_high_iff high b_eq).trans ⟨fun meets => ?_, AtMost.stated⟩⟩
    exact ⟨meets, fun none => absurd none stated, fun none => absurd none stated⟩
  | none =>
    have unstated := high.stated_eq_nil
    have meets (n : Int) : Side.high.Meets k (n * unitsPerOne) := high.meets
    cases high
    have high_eq {b : Int} (exact_end : (NumericBounds.highEnd lower none).Exactly (b * unitsPerOne))
        (few : b.natAbs < 2 ^ 53) :
        (integerBounds ⟨NumericBounds.lowEnd lower none, minExclusive, NumericBounds.highEnd lower none,
          false⟩).2 = b :=
      integerBounds_high exact_end few
    cases lower with
    | none =>
      have none_low := low.stated_eq_nil
      rw [high_eq defaultSpan_exactly (by decide)]
      refine ⟨by decide, fun n => ⟨fun below => ?_, fun most => most.toThousand unstated none_low⟩⟩
      exact ⟨meets n, fun _ _ => below, fun _ some_low => absurd none_low some_low⟩
    | some lo =>
      obtain ⟨mem, tightest⟩ := low.tightest
      obtain ⟨b, b_eq, few⟩ := whole.bounds .low lo mem
      have some_low := List.ne_nil_of_mem mem
      have span_end : (NumericBounds.highEnd (some lo) none).Exactly ((b + 1000) * unitsPerOne) := by
        rw [NumericBounds.highEnd]
        exact add_defaultSpan b_eq few
      rw [high_eq span_end (by omega)]
      refine ⟨by omega, fun n => ⟨fun below => ?_, fun most => ?_⟩⟩
      · refine ⟨meets n, fun _ none_low => absurd none_low some_low, fun _ _ => ⟨lo, mem, ?_⟩⟩
        rw [b_eq, units_le_iff]
        omega
      · obtain ⟨x, stated, span⟩ := most.toSpan unstated some_low
        have within := Int.le_trans span (tightest x stated)
        rw [b_eq, units_le_iff] at within
        omega

theorem isWholeStep_iff : isWholeStep x = true ↔ ∃ s : Int, x.signed = s * unitsPerOne ∧ 1 ≤ s := by
  obtain ⟨unit, unit_eq, unit_positive, unit_units⟩ := one_isFinite
  have unit_signed := Finite.signed_of_not_negative unit_positive
  have one_le_iff : one.le x = true ↔ (unitsPerOne : Int) ≤ x.signed := by
    rw [unit_eq, ← unit_units, ← unit_signed]
    exact le_finite_iff
  have scaled (s : Int) : (unitsPerOne : Int) ≤ s * unitsPerOne ↔ 1 ≤ s := by
    have ones := units_le_iff (a := 1) (b := s)
    rwa [Int.one_mul] at ones
  rw [isWholeStep, Bool.and_eq_true, one_le_iff, fract_eq_zero_iff, ← x.signed_natAbs]
  constructor
  · rintro ⟨least, whole⟩
    obtain ⟨s, s_eq⟩ := Int.dvd_natAbs.mp (Int.natCast_dvd_natCast.mpr (Nat.dvd_of_mod_eq_zero whole))
    rw [Int.mul_comm] at s_eq
    exact ⟨s, s_eq, (scaled s).mp (s_eq ▸ least)⟩
  · rintro ⟨s, s_eq, positive⟩
    rw [s_eq, Int.natAbs_mul, Int.natAbs_natCast]
    exact ⟨(scaled s).mpr positive, Nat.mul_mod_left _ _⟩

theorem wholeStep_eq_some_iff {step : Binary64} : k.multipleOf.filter (isWholeStep ·) = some step ↔
    ∃ x : Finite, k.multipleOf = some x ∧ step = .finite x ∧ isWholeStep x = true := by
  cases k.multipleOf with
  | none => exact iff_of_false nofun fun ⟨x, same, _⟩ => nomatch same
  | some x =>
    show Option.filter (isWholeStep ·) (some (finite x)) = some step ↔ _
    rw [Option.filter_some]
    constructor
    · intro chosen
      split at chosen
      · rename_i whole
        exact ⟨x, rfl, (Option.some.inj chosen).symm, whole⟩
      · cases chosen
    · rintro ⟨x, same, rfl, whole⟩
      cases same
      rw [if_pos whole]

/-- The step is a whole number of 64 bits, and its multiples are counted in ones. -/
theorem WholeNumbers.multiple_iff (whole : WholeNumbers k) (stated : k.multipleOf = some x) :
    ∃ s : Int, toInt64 x = s ∧ 1 ≤ s ∧ s.natAbs ≤ 2 ^ 52 ∧ ∀ n, x.signed ∣ n * unitsPerOne ↔ s ∣ n := by
  obtain ⟨s, s_eq, positive, few⟩ := whole.step x stated
  refine ⟨s, ?_, positive, few, fun n => ?_⟩
  · rw [toInt64_of_exactly ⟨x, rfl, s_eq⟩, cut64_of_within (by omega) (by omega)]
  · rw [s_eq]
    exact Int.mul_dvd_mul_iff_right (Int.ne_of_gt natCast_unitsPerOne_pos)

/-- With a step, the integers that suit the node are its multiples by the factors between the rounded quotients of the
ends. -/
theorem suits_iff_factor (whole : WholeNumbers k) (stated : k.multipleOf = some x) {m : Int} :
    Suits k m ↔ ∃ n, m = n * toInt64 x ∧
      ((ofInt (integerBounds (.ofKeywords k)).1).div (ofInt (toInt64 x))).ceil.toInt64 ≤ n ∧
      n ≤ ((ofInt (integerBounds (.ofKeywords k)).2).div (ofInt (toInt64 x))).floor.toInt64 := by
  obtain ⟨low_few, low_iff⟩ := integerBounds_low_le_iff whole
  obtain ⟨high_few, high_iff⟩ := le_integerBounds_high_iff whole
  obtain ⟨s, s_eq, positive, s_few, multiple_iff⟩ := whole.multiple_iff stated
  have least_iff (n : Int) := ceil_div_le_iff (n := n) low_few positive (by omega)
  have most_iff (n : Int) := le_floor_div_iff (n := n) high_few positive (by omega)
  rw [s_eq]
  constructor
  · intro suited
    obtain ⟨n, rfl⟩ := (multiple_iff m).mp (suited.multiple x stated)
    have above := (low_iff _).mpr suited.atLeast
    have below := (high_iff _).mpr suited.atMost
    rw [Int.mul_comm] at above below
    exact ⟨n, Int.mul_comm s n, (least_iff n).mpr above, (most_iff n).mpr below⟩
  · rintro ⟨n, rfl, above, below⟩
    refine ⟨(low_iff _).mp ((least_iff n).mp above), (high_iff _).mp ((most_iff n).mp below), ?_⟩
    intro step same
    cases stated.symm.trans same
    exact (multiple_iff _).mpr (Int.dvd_mul_left n s)

/-- Without a step, all integers between the ends suit the node. -/
theorem suits_iff_between (whole : WholeNumbers k) (unstated : k.multipleOf.filter (isWholeStep ·) = none) {m : Int} :
    Suits k m ↔ (integerBounds (.ofKeywords k)).1 ≤ m ∧ m ≤ (integerBounds (.ofKeywords k)).2 := by
  rw [(integerBounds_low_le_iff whole).2, (le_integerBounds_high_iff whole).2]
  constructor
  · intro suited
    exact ⟨suited.atLeast, suited.atMost⟩
  · rintro ⟨least, most⟩
    refine ⟨least, most, ?_⟩
    intro step stated
    obtain ⟨s, s_eq, positive, -⟩ := whole.step step stated
    have chosen := wholeStep_eq_some_iff.mpr ⟨step, stated, rfl, isWholeStep_iff.mpr ⟨s, s_eq, positive⟩⟩
    cases unstated.symm.trans chosen

theorem Suits.within (whole : WholeNumbers k) (suited : Suits k n) : n.natAbs < 2 ^ 53 := by
  obtain ⟨low_few, low_iff⟩ := integerBounds_low_le_iff whole
  obtain ⟨high_few, high_iff⟩ := le_integerBounds_high_iff whole
  have least := (low_iff n).mpr suited.atLeast
  have most := (high_iff n).mpr suited.atMost
  omega

variable {σ : Type} [Source σ]

/-- An integer that suits the node is drawn if there is one, and else the least of the range. -/
theorem integerDraw_suits (whole : WholeNumbers k) : (integerDraw k : Draw σ Json).Gives fun value => ∃ n : Int,
    value = .ofInt n ∧ ((∃ m, Suits k m) → Suits k n) ∧
      ((¬∃ m, Suits k m) → IsLeast {m | AtLeast k m} n) := by
  have low_iff := (integerBounds_low_le_iff whole).2
  have least : IsLeast {m | AtLeast k m} (integerBounds (.ofKeywords k)).1 :=
    ⟨(low_iff _).mp (Int.le_refl _), fun m above => (low_iff m).mpr above⟩
  unfold integerDraw
  dsimp only
  split
  · rename_i step chosen
    obtain ⟨x, stated, rfl, -⟩ := wholeStep_eq_some_iff.mp chosen
    have suits {m : Int} := suits_iff_factor whole stated (m := m)
    split
    · rename_i empty
      refine Draw.gives_pure ⟨_, rfl, ?_, fun _ => least⟩
      rintro ⟨m, suited⟩
      obtain ⟨n, -, above, below⟩ := suits.mp suited
      exact absurd (Int.le_trans above below) (Int.not_le.mpr empty)
    · rename_i inhabited
      refine (Draw.intBetween_gives (Int.not_lt.mp inhabited)).bind fun n between => Draw.gives_pure ?_
      have suited := suits.mpr ⟨n, rfl, between⟩
      have within := suited.within whole
      rw [wrapped_of_within (by omega) (by omega)]
      exact ⟨_, rfl, fun _ => suited, fun none => absurd ⟨_, suited⟩ none⟩
  · rename_i unstated
    have suits {m : Int} := suits_iff_between whole unstated (m := m)
    split
    · rename_i narrow
      refine Draw.gives_pure ⟨_, rfl, ?_, fun _ => least⟩
      rintro ⟨m, suited⟩
      obtain ⟨above, below⟩ := suits.mp suited
      exact suits.mpr ⟨Int.le_refl _, Int.le_trans above below⟩
    · rename_i wide
      have ordered := Int.le_of_lt (Int.not_le.mp wide)
      refine (Draw.intBetween_gives ordered).bind fun n between => Draw.gives_pure ?_
      have suited := suits.mpr between
      exact ⟨n, rfl, fun _ => suited, fun none => absurd ⟨_, suited⟩ none⟩

end

/-- The multiples of four from one to ten, where one is excluded. -/
def fours : Keywords where
  minimum := some (.whole 1 Nat.one_le_two_pow)
  exclusiveMinimum := some (.flag true)
  maximum := some (.whole 10 (by decide))
  multipleOf := some (.whole 4 (by decide))

theorem integerDraw_suits_fours : WholeNumbers fours ∧
    (integerDraw fours : Draw Script Json).Gives fun value => ∃ n : Int, value = .ofInt n ∧ Suits fours n := by
  have whole : WholeNumbers fours := by
    refine ⟨fun side x mem => ?_, fun x same => ⟨4, ?_, by decide, by decide⟩⟩
    · cases side with
      | low =>
        cases List.mem_singleton.mp mem
        exact ⟨1, Finite.signed_whole _, by decide⟩
      | high =>
        cases List.mem_singleton.mp mem
        exact ⟨10, Finite.signed_whole _, by decide⟩
    · cases same
      exact Finite.signed_whole _
  have four : Suits fours 4 := by
    refine ⟨((integerBounds_low_le_iff whole).2 4).mp (by decide +kernel),
      ((le_integerBounds_high_iff whole).2 4).mp (by decide +kernel), fun step same => ?_⟩
    cases same
    rw [Finite.signed_whole]
    exact Int.dvd_refl _
  exact ⟨whole, (integerDraw_suits whole).mono fun value ⟨n, same, suited, _⟩ => ⟨n, same, suited ⟨4, four⟩⟩⟩

end MockApi.Generation
