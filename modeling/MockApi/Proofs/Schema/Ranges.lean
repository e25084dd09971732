import MockApi.Proofs.Binary64.Rounding
import MockApi.Proofs.Validation.Keywords
import MockApi.Schema.Bounds
import Mathlib.Tactic.MkIffOfInductiveProp

/-!
# Ranges of numbers

The bounds that the keywords of a node state on one side of a range, and the one bound that they are merged into. It
lets through what all of them let through (`Merged.iff`). So numbers are generated from the range that they are
checked against, as far as the node states it (`contains_iff_numberFault`).
-/

namespace MockApi

namespace Schema

open Validation

inductive Side
  | low
  | high

namespace Side

def inclusive : Side → Keywords → Option Binary64.Finite
  | low, k => k.minimum
  | high, k => k.maximum

def exclusive : Side → Keywords → Option ExclusiveBound
  | low, k => k.exclusiveMinimum
  | high, k => k.exclusiveMaximum

def tighter : Side → Binary64 → Binary64 → Binary64
  | low => Binary64.max
  | high => Binary64.min

/-- A bound on this side lets a number through. Both are counted in units. -/
def Allows : Side → Int → Int → Prop
  | low, bound, units => bound ≤ units
  | high, bound, units => units ≤ bound

def AllowsStrictly : Side → Int → Int → Prop
  | low, bound, units => bound < units
  | high, bound, units => units < bound

/-- All bounds on this side let a number through. A flag makes the inclusive one beside it exclusive. -/
@[mk_iff]
structure Meets (side : Side) (k : Keywords) (units : Int) : Prop where
  inclusive : ∀ bound, side.inclusive k = some bound → side.Allows bound.signed units
  flagged : side.exclusive k = some (.flag true) →
    ∀ bound, side.inclusive k = some bound → side.AllowsStrictly bound.signed units
  exclusive : ∀ bound, side.exclusive k = some (.value bound) → side.AllowsStrictly bound.signed units

/-- The bounds on this side. -/
def stated (side : Side) (k : Keywords) : List Binary64.Finite :=
  (side.inclusive k).toList ++ (exclusiveValue (side.exclusive k)).toList

def merged (side : Side) (k : Keywords) : Option Binary64.Finite × Bool :=
  mergeBound (side.inclusive k) (side.exclusive k) side.tighter

variable {side : Side} {k : Keywords} {bound : Binary64.Finite} {strict : Bool} {units a b : Int}

theorem Allows.refl (side : Side) (a : Int) : side.Allows a a := by
  cases side <;> exact Int.le_refl a

theorem AllowsStrictly.allows (strictly : side.AllowsStrictly a b) : side.Allows a b := by
  cases side <;> exact Int.le_of_lt strictly

theorem AllowsStrictly.trans_allows (strictly : side.AllowsStrictly a b) (allows : side.Allows b units) :
    side.AllowsStrictly a units := by
  cases side with
  | low => exact Int.lt_of_lt_of_le strictly allows
  | high => exact Int.lt_of_le_of_lt allows strictly

theorem allows_of_not_strictly (not_strictly : ¬side.AllowsStrictly a b) : side.Allows b a := by
  cases side <;> exact Int.not_lt.mp not_strictly

theorem Allows.trans_strictly (allows : side.Allows a b) (strictly : side.AllowsStrictly b units) :
    side.AllowsStrictly a units := by
  cases side with
  | low => exact Int.lt_of_le_of_lt allows strictly
  | high => exact Int.lt_of_lt_of_le strictly allows

theorem tighter_eq (side : Side) (i x : Binary64.Finite) :
    ((side.tighter i x).eq i && !Binary64.eq i x) = true ↔ side.AllowsStrictly x.signed i.signed := by
  cases side with
  | low =>
    by_cases less : i.signed < x.signed <;>
      simp [tighter, AllowsStrictly, Binary64.max, Binary64.lt, Binary64.eq, less] <;> omega
  | high =>
    by_cases less : x.signed < i.signed <;>
      simp [tighter, AllowsStrictly, Binary64.min, Binary64.lt, Binary64.eq, less] <;> omega

/-- The bound that the bounds on a side are merged into, and whether it is excluded. -/
inductive Merged (side : Side) (k : Keywords) : Option Binary64.Finite → Bool → Prop
  | unstated (inclusive : side.inclusive k = none) (exclusive : ∀ x, side.exclusive k ≠ some (.value x)) :
      Merged side k none false
  | inclusive {i : Binary64.Finite} (inclusive : side.inclusive k = some i)
      (tighter : ∀ x, side.exclusive k = some (.value x) → side.AllowsStrictly x.signed i.signed) :
      Merged side k (some i) (isFlagged (side.exclusive k))
  | exclusive {x : Binary64.Finite} (exclusive : side.exclusive k = some (.value x))
      (tighter : ∀ i, side.inclusive k = some i → ¬side.AllowsStrictly x.signed i.signed) :
      Merged side k (some x) true

theorem merged_merged (side : Side) (k : Keywords) : Merged side k (side.merged k).1 (side.merged k).2 := by
  unfold Side.merged mergeBound
  cases exclusive : side.exclusive k with
  | none =>
    cases inclusive : side.inclusive k with
    | none => exact .unstated inclusive (by simp [exclusive])
    | some i => simpa [exclusive, isFlagged] using Merged.inclusive inclusive (by simp [exclusive])
  | some e =>
    cases e with
    | flag on =>
      cases inclusive : side.inclusive k with
      | none => cases on <;> exact .unstated inclusive (by simp [exclusive])
      | some i => cases on <;> simpa [exclusive, isFlagged] using Merged.inclusive inclusive (by simp [exclusive])
    | value x =>
      cases inclusive : side.inclusive k with
      | none => exact .exclusive exclusive (by simp [inclusive])
      | some i =>
        have tighter := tighter_eq side i x
        dsimp only
        split
        · rename_i before
          have inside := tighter.mp before
          simpa [exclusive, isFlagged] using Merged.inclusive inclusive (by simpa [exclusive] using inside)
        · rename_i beyond
          exact .exclusive exclusive (by simpa [inclusive] using mt tighter.mpr beyond)

/-- What is merged lets through what the bounds let through, taken one by one. -/
theorem Merged.iff (merged : Merged side k (some bound) strict) :
    (if strict = true then side.AllowsStrictly bound.signed units else side.Allows bound.signed units) ↔
      side.Meets k units := by
  cases merged with
  | inclusive inclusive tighter =>
    have beyond (allows : side.Allows bound.signed units) :
        ∀ x, side.exclusive k = some (.value x) → side.AllowsStrictly x.signed units :=
      fun x stated => (tighter x stated).trans_allows allows
    rw [meets_iff, inclusive]
    split
    · rename_i flag
      have flagged := isFlagged_iff.mp flag
      constructor
      · intro strictly
        exact ⟨fun _ same => Option.some.inj same ▸ strictly.allows,
          fun _ _ same => Option.some.inj same ▸ strictly, beyond strictly.allows⟩
      · rintro ⟨-, strictly, -⟩
        exact strictly flagged bound rfl
    · rename_i flag
      have unflagged := mt isFlagged_iff.mpr flag
      constructor
      · intro allows
        exact ⟨fun _ same => Option.some.inj same ▸ allows, fun flagged => absurd flagged unflagged,
          beyond allows⟩
      · rintro ⟨allows, -, -⟩
        exact allows bound rfl
  | exclusive exclusive tighter =>
    rw [if_pos rfl, meets_iff, exclusive]
    constructor
    · intro strictly
      refine ⟨fun i stated => ?_, nofun, fun x same => ?_⟩
      · exact ((allows_of_not_strictly (tighter i stated)).trans_strictly strictly).allows
      · cases same
        exact strictly
    · rintro ⟨-, -, strictly⟩
      exact strictly bound rfl

theorem mem_stated {x : Binary64.Finite} :
    x ∈ side.stated k ↔ side.inclusive k = some x ∨ side.exclusive k = some (.value x) := by
  simp [stated, exclusiveValue_eq_some]

theorem Merged.stated_eq_nil (merged : Merged side k none strict) : side.stated k = [] := by
  cases merged with
  | unstated inclusive exclusive =>
    refine List.eq_nil_iff_forall_not_mem.mpr fun x mem => ?_
    rcases mem_stated.mp mem with same | same
    · cases inclusive.symm.trans same
    · exact exclusive x same

theorem Merged.meets (merged : Merged side k none strict) : side.Meets k units := by
  cases merged with
  | unstated inclusive exclusive =>
    rw [meets_iff, inclusive]
    exact ⟨by simp, by simp, fun x same => absurd same (exclusive x)⟩

/-- The bound that is merged is one of those stated, and none is tighter. -/
theorem Merged.tightest (merged : Merged side k (some bound) strict) :
    bound ∈ side.stated k ∧ ∀ other ∈ side.stated k, side.Allows other.signed bound.signed := by
  cases merged with
  | inclusive inclusive tighter =>
    refine ⟨mem_stated.mpr (.inl inclusive), fun other mem => ?_⟩
    rcases mem_stated.mp mem with same | same
    · cases inclusive.symm.trans same
      exact Allows.refl side _
    · exact (tighter other same).allows
  | exclusive exclusive tighter =>
    refine ⟨mem_stated.mpr (.inr exclusive), fun other mem => ?_⟩
    rcases mem_stated.mp mem with same | same
    · exact allows_of_not_strictly (tighter other same)
    · cases exclusive.symm.trans same
      exact Allows.refl side _

end Side

namespace NumericBounds

variable {k : Keywords}

def lowEnd : Option Binary64.Finite → Option Binary64.Finite → Binary64
  | some lo, _ => lo
  | none, some hi => if Binary64.zero.lt hi then Binary64.zero else Binary64.sub hi defaultSpan
  | none, none => Binary64.zero

def highEnd : Option Binary64.Finite → Option Binary64.Finite → Binary64
  | _, some hi => hi
  | some lo, none => Binary64.add lo defaultSpan
  | none, none => defaultSpan

/-- The ends of the range are the merged bounds, or defaults. -/
theorem ofKeywords_merged (k : Keywords) : ∃ lower minExclusive upper maxExclusive,
    Side.low.Merged k lower minExclusive ∧ Side.high.Merged k upper maxExclusive ∧
      ofKeywords k = ⟨lowEnd lower upper, minExclusive, highEnd lower upper, maxExclusive⟩ := by
  refine ⟨_, _, _, _, Side.merged_merged .low k, Side.merged_merged .high k, ?_⟩
  have low : mergeBound k.minimum k.exclusiveMinimum Binary64.max = Side.low.merged k := rfl
  have high : mergeBound k.maximum k.exclusiveMaximum Binary64.min = Side.high.merged k := rfl
  unfold ofKeywords
  rw [low, high]
  rcases Side.low.merged k with ⟨_ | lo, minExclusive⟩ <;> rcases Side.high.merged k with ⟨_ | hi, maxExclusive⟩
  · rfl
  · by_cases positive : Binary64.zero.lt hi = true
    · simp only [lowEnd, highEnd, if_pos positive]
    · simp only [lowEnd, highEnd, if_neg positive]
  · rfl
  · rfl

/-- Both ends are stated, and none of them is a default. -/
theorem ofKeywords_stated (low : Side.low.stated k ≠ []) (high : Side.high.stated k ≠ []) :
    ∃ lo hi minExclusive maxExclusive, ofKeywords k = ⟨.finite lo, minExclusive, .finite hi, maxExclusive⟩ ∧
      Side.low.Merged k (some lo) minExclusive ∧ Side.high.Merged k (some hi) maxExclusive := by
  obtain ⟨lower, minExclusive, upper, maxExclusive, lower_merged, upper_merged, same⟩ := ofKeywords_merged k
  cases lower with
  | none => exact absurd lower_merged.stated_eq_nil low
  | some lo =>
    cases upper with
    | none => exact absurd upper_merged.stated_eq_nil high
    | some hi => exact ⟨lo, hi, minExclusive, maxExclusive, same, lower_merged, upper_merged⟩

/-- Numbers of the range are those that meet the bounds on both sides. -/
theorem contains_iff_meets (low : Side.low.stated k ≠ []) (high : Side.high.stated k ≠ []) (x : Binary64.Finite) :
    (ofKeywords k).contains x = true ↔ Side.low.Meets k x.signed ∧ Side.high.Meets k x.signed := by
  obtain ⟨lo, hi, minExclusive, maxExclusive, same, lower, upper⟩ := ofKeywords_stated low high
  rw [same, contains, Bool.and_eq_true, ← lower.iff, ← upper.iff]
  apply and_congr
  · cases minExclusive <;> simp [Side.Allows, Side.AllowsStrictly, Binary64.le_finite_iff, Binary64.lt_finite_iff]
  · cases maxExclusive <;> simp [Side.Allows, Side.AllowsStrictly, Binary64.le_finite_iff, Binary64.lt_finite_iff]

theorem meets_low_iff (x : Binary64.Finite) : Side.low.Meets k x.signed ↔
    minimumFault k x = none ∧ exclusiveMinimumFault k x = none := by
  have number := Binary64.finite_ne_nan x
  rw [Side.meets_iff, minimumFault_eq_none number, exclusiveMinimumFault_eq_none number]
  simp only [Side.inclusive, Side.exclusive, Side.Allows, Side.AllowsStrictly, Binary64.le_finite_iff,
    Binary64.lt_finite_iff, and_assoc]

theorem meets_high_iff (x : Binary64.Finite) : Side.high.Meets k x.signed ↔
    maximumFault k x = none ∧ exclusiveMaximumFault k x = none := by
  have number := Binary64.finite_ne_nan x
  rw [Side.meets_iff, maximumFault_eq_none number, exclusiveMaximumFault_eq_none number]
  simp only [Side.inclusive, Side.exclusive, Side.Allows, Side.AllowsStrictly, Binary64.le_finite_iff,
    Binary64.lt_finite_iff, and_assoc]

/-- The first fault of the keywords for the ends of a range. -/
def endFault (k : Keywords) (n : Binary64) : Option String :=
  (minimumFault k n).or <| (maximumFault k n).or <| (exclusiveMinimumFault k n).or (exclusiveMaximumFault k n)

theorem numberFault_eq (k : Keywords) (n : Binary64) :
    numberFault k n = (endFault k n).or (multipleFault k n) := by
  simp only [numberFault, endFault, Option.or_assoc]

theorem endFault_eq_none {n : Binary64} : endFault k n = none ↔
    (minimumFault k n = none ∧ exclusiveMinimumFault k n = none) ∧
      maximumFault k n = none ∧ exclusiveMaximumFault k n = none := by
  simp only [endFault, Option.or_eq_none_iff]
  constructor
  · rintro ⟨min, max, low, high⟩
    exact ⟨⟨min, low⟩, max, high⟩
  · rintro ⟨⟨min, low⟩, max, high⟩
    exact ⟨min, max, low, high⟩

/-- The fault of an end is not worded as that of a step. -/
theorem endFault_ne {n : Binary64} {fault : String} (found : endFault k n = some fault) :
    multipleFault k n ≠ some fault := by
  intro step
  have second : fault.toList[1]? = some 'u' := by
    obtain ⟨_, -, rfl⟩ := Option.map_eq_some_iff.mp step
    simp
  simp only [endFault, Option.or_eq_some_iff] at found
  rcases found with found | ⟨-, found | ⟨-, found | ⟨-, found⟩⟩⟩
  all_goals
    obtain ⟨_, -, rfl⟩ := Option.map_eq_some_iff.mp found
    revert second
  · cases isFlagged k.exclusiveMinimum <;> simp
  · cases isFlagged k.exclusiveMaximum <;> simp
  · simp
  · simp

/-- Where both ends are stated, in whichever way, a number is in range exactly if its check finds no fault, unless
with the step. -/
theorem contains_iff_numberFault (low : Side.low.stated k ≠ []) (high : Side.high.stated k ≠ [])
    (x : Binary64.Finite) : (ofKeywords k).contains x = true ↔
      ∀ fault, numberFault k x = some fault → multipleFault k x = some fault := by
  rw [contains_iff_meets low high, meets_low_iff, meets_high_iff, ← endFault_eq_none, numberFault_eq]
  constructor
  · intro none fault found
    rwa [none, Option.none_or] at found
  · intro steps
    cases found : endFault k x with
    | none => rfl
    | some fault =>
      have step := steps fault (by rw [found, Option.some_or])
      exact absurd step (endFault_ne found)

/-- From one to three, where one is excluded by a number and three by a flag. -/
def mixed : Keywords where
  minimum := some (.whole 1 (by decide))
  exclusiveMinimum := some (.value (.whole 1 (by decide)))
  maximum := some (.whole 3 (by decide))
  exclusiveMaximum := some (.flag true)

theorem contains_iff_numberFault_mixed :
    Side.low.stated mixed ≠ [] ∧ Side.high.stated mixed ≠ [] ∧
      ∀ fault, numberFault mixed (Binary64.Finite.whole 2 (by decide)) = some fault →
        multipleFault mixed (Binary64.Finite.whole 2 (by decide)) = some fault := by
  have low : Side.low.stated mixed ≠ [] := List.cons_ne_nil _ _
  have high : Side.high.stated mixed ≠ [] := List.cons_ne_nil _ _
  have contained : (ofKeywords mixed).contains (Binary64.Finite.whole 2 (by decide)) = true := by decide +kernel
  exact ⟨low, high, (contains_iff_numberFault low high _).mp contained⟩

end NumericBounds

end Schema

end MockApi
