import MockApi.Proofs.Binary64.Order
import MockApi.Validation

/-!
# Keywords of texts, numbers and arrays

What the keywords ask, said without an order of checks, and that the checks find no fault exactly
where this holds.
-/

namespace MockApi.Validation

open Schema

/-- What the keywords for texts ask. A pattern that is no regular expression asks nothing. -/
structure StringFits (k : Keywords) (s : String) : Prop where
  minLength : ∀ min, k.minLength = some min → min ≤ s.length
  maxLength : ∀ max, k.maxLength = some max → s.length ≤ max
  pattern : ∀ pattern, k.pattern = some pattern → Regex.patternMatches pattern s ≠ some false
  format : ∀ format, k.format = some format → formatMatches format s = true

/-- What the keywords for numbers ask. A flag makes the inclusive bound beside it exclusive. -/
structure NumberFits (k : Keywords) (n : Binary64) : Prop where
  minimum : ∀ min, k.minimum = some min → Binary64.le min n = true
  maximum : ∀ max, k.maximum = some max → n.le max = true
  flaggedMinimum : k.exclusiveMinimum = some (.flag true) →
    ∀ min, k.minimum = some min → Binary64.lt min n = true
  flaggedMaximum : k.exclusiveMaximum = some (.flag true) →
    ∀ max, k.maximum = some max → n.lt max = true
  exclusiveMinimum : ∀ min, k.exclusiveMinimum = some (.value min) → Binary64.lt min n = true
  exclusiveMaximum : ∀ max, k.exclusiveMaximum = some (.value max) → n.lt max = true
  multipleOf : ∀ step, k.multipleOf = some step → Binary64.lt Binary64.zero step = true →
    isMultiple n step = true

/-- What the keywords for arrays ask of the number of elements. -/
structure LengthFits (k : Keywords) (length : Nat) : Prop where
  minItems : ∀ min, k.minItems = some min → min ≤ length
  maxItems : ∀ max, k.maxItems = some max → length ≤ max

/-! ### Faults -/

theorem stringFault_eq_none {k : Keywords} {s : String} :
    stringFault k s = none ↔ StringFits k s := by
  have faults : stringFault k s = none ↔
      k.minLength.filter (s.length < ·) = none ∧ k.maxLength.filter (· < s.length) = none ∧
      k.pattern.filter (Regex.patternMatches · s == some false) = none ∧
      k.format.filter (!formatMatches · s) = none := by
    unfold stringFault
    cases k.minLength.filter (s.length < ·) <;> cases k.maxLength.filter (· < s.length) <;>
      cases k.pattern.filter (Regex.patternMatches · s == some false) <;>
      cases k.format.filter (!formatMatches · s) <;> simp
  simp only [faults, Option.filter_eq_none_iff, decide_eq_true_eq, Nat.not_lt, beq_iff_eq,
    Bool.not_eq_true', Bool.not_eq_false]
  exact ⟨fun ⟨h₁, h₂, h₃, h₄⟩ => ⟨h₁, h₂, h₃, h₄⟩, fun ⟨h₁, h₂, h₃, h₄⟩ => ⟨h₁, h₂, h₃, h₄⟩⟩

theorem lengthFault_eq_none {k : Keywords} {length : Nat} :
    lengthFault k length = none ↔ LengthFits k length := by
  have faults : lengthFault k length = none ↔
      k.minItems.filter (length < ·) = none ∧ k.maxItems.filter (· < length) = none := by
    unfold lengthFault
    cases k.minItems.filter (length < ·) <;> cases k.maxItems.filter (· < length) <;> simp
  simp only [faults, Option.filter_eq_none_iff, decide_eq_true_eq, Nat.not_lt]
  exact ⟨fun ⟨h₁, h₂⟩ => ⟨h₁, h₂⟩, fun ⟨h₁, h₂⟩ => ⟨h₁, h₂⟩⟩

theorem isFlagged_iff {bound : Option ExclusiveBound} :
    isFlagged bound = true ↔ bound = some (.flag true) := by
  unfold isFlagged
  split <;> simp_all

theorem exclusiveValue_eq_some {bound : Option ExclusiveBound} {x : Binary64.Finite} :
    exclusiveValue bound = some x ↔ bound = some (.value x) := by
  unfold exclusiveValue
  split <;> simp_all

section

variable {k : Keywords} {n : Binary64}

/-- A number is not under a bound, nor equal to one that a flag makes exclusive. -/
theorem above_iff {x bound : Binary64} {flagged : Prop} (hx : x ≠ .nan) (hb : bound ≠ .nan) :
    (x.lt bound = false ∧ ¬(flagged ∧ bound.eq x = true)) ↔
      bound.le x = true ∧ (flagged → bound.lt x = true) := by
  rw [Binary64.lt_eq_false_iff hx hb]
  refine and_congr_right fun above => ?_
  simp [Binary64.lt_iff_le_and_ne, above]

theorem forall_and_imp {α : Type} {stated loose strict : α → Prop} {flagged : Prop} :
    (∀ bound, stated bound → loose bound ∧ (flagged → strict bound)) ↔
      (∀ bound, stated bound → loose bound) ∧ (flagged → ∀ bound, stated bound → strict bound) := by
  constructor
  · intro h
    exact ⟨fun bound mem => (h bound mem).1, fun flag bound mem => (h bound mem).2 flag⟩
  · rintro ⟨loose, strict⟩ bound mem
    exact ⟨loose bound mem, fun flag => strict flag bound mem⟩

theorem minimumFault_eq_none (hn : n ≠ .nan) :
    minimumFault k n = none ↔ (∀ min, k.minimum = some min → Binary64.le min n = true) ∧
      (k.exclusiveMinimum = some (.flag true) →
        ∀ min, k.minimum = some min → Binary64.lt min n = true) := by
  have faults : minimumFault k n = none ↔ ∀ min, k.minimum = some min →
      n.lt min = false ∧ ¬(k.exclusiveMinimum = some (.flag true) ∧ Binary64.eq min n = true) := by
    simp [minimumFault, isFlagged_iff, Option.bind_eq_some_iff, Option.filter_eq_none_iff,
      Binary64.eq_comm n]
  rw [faults, ← forall_and_imp]
  exact forall₂_congr fun min _ => above_iff hn nofun

theorem maximumFault_eq_none (hn : n ≠ .nan) :
    maximumFault k n = none ↔ (∀ max, k.maximum = some max → n.le max = true) ∧
      (k.exclusiveMaximum = some (.flag true) →
        ∀ max, k.maximum = some max → n.lt max = true) := by
  have faults : maximumFault k n = none ↔ ∀ max, k.maximum = some max →
      Binary64.lt max n = false ∧ ¬(k.exclusiveMaximum = some (.flag true) ∧ n.eq max = true) := by
    simp [maximumFault, isFlagged_iff, Option.bind_eq_some_iff, Option.filter_eq_none_iff]
  rw [faults, ← forall_and_imp]
  exact forall₂_congr fun max _ => above_iff nofun hn

theorem exclusiveMinimumFault_eq_none (hn : n ≠ .nan) :
    exclusiveMinimumFault k n = none ↔
      ∀ min, k.exclusiveMinimum = some (.value min) → Binary64.lt min n = true := by
  have faults : exclusiveMinimumFault k n = none ↔
      ∀ min, k.exclusiveMinimum = some (.value min) → n.le min = false := by
    simp [exclusiveMinimumFault, exclusiveValue_eq_some, Option.bind_eq_some_iff,
      Option.filter_eq_none_iff]
  rw [faults]
  exact forall₂_congr fun min _ => Binary64.le_eq_false_iff hn (by nofun)

theorem exclusiveMaximumFault_eq_none (hn : n ≠ .nan) :
    exclusiveMaximumFault k n = none ↔
      ∀ max, k.exclusiveMaximum = some (.value max) → n.lt max = true := by
  have faults : exclusiveMaximumFault k n = none ↔
      ∀ max, k.exclusiveMaximum = some (.value max) → Binary64.le max n = false := by
    simp [exclusiveMaximumFault, exclusiveValue_eq_some, Option.bind_eq_some_iff,
      Option.filter_eq_none_iff]
  rw [faults]
  exact forall₂_congr fun max _ => Binary64.le_eq_false_iff (by nofun) hn

theorem multipleFault_eq_none :
    multipleFault k n = none ↔ ∀ step, k.multipleOf = some step →
      Binary64.lt Binary64.zero step = true → isMultiple n step = true := by
  simp [multipleFault, Option.bind_eq_some_iff, Option.filter_eq_none_iff]

theorem numberFault_eq_none (hn : n ≠ .nan) : numberFault k n = none ↔ NumberFits k n := by
  simp only [numberFault, Option.or_eq_none_iff, minimumFault_eq_none hn, maximumFault_eq_none hn,
    exclusiveMinimumFault_eq_none hn, exclusiveMaximumFault_eq_none hn, multipleFault_eq_none]
  constructor
  · rintro ⟨⟨h₁, h₂⟩, ⟨h₃, h₄⟩, h₅, h₆, h₇⟩
    exact ⟨h₁, h₃, h₂, h₄, h₅, h₆, h₇⟩
  · rintro ⟨h₁, h₃, h₂, h₄, h₅, h₆, h₇⟩
    exact ⟨⟨h₁, h₂⟩, ⟨h₃, h₄⟩, h₅, h₆, h₇⟩

end

end MockApi.Validation
