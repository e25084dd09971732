import MockApi.Generation.Vocabulary
import MockApi.Proofs.Binary64.Order
import MockApi.Proofs.Generation.Keeping

/-!
# Texts and numbers rely on what is met

Filler text, texts of a format and sample texts keep every invariant. A host or a mail address is built to
a length that is long enough for its fixed parts, and no text is asked for that cannot be held. Numbers and integers
keep every invariant too, whatever range a node states: the range may be empty or the wrong way round, since numbers
are drawn only between ends that are in order.
-/

namespace MockApi.Generation

variable {σ : Type} [Source σ] {I : Invariant σ} {F : Fault → Prop}

/-! ### Filler text -/

theorem fill_keeps (fuel room : Nat) (soFar : List Char) : (fill fuel room soFar : Draw σ _).Keeps I := by
  induction fuel generalizing room soFar with
  | zero => cases room <;> exact Draw.keeps_pure trivial
  | succ fuel ih =>
    cases room with
    | zero => exact Draw.keeps_pure trivial
    | succ room =>
      have inhabited : 0 < fillerWords.length := by decide
      exact (Draw.index_keeps inhabited).bind fun i _ => ih _ _

theorem fillerText_keeps (length : Nat) : (fillerText length : Draw σ String).Keeps I :=
  (fill_keeps _ _ _).map _

/-! ### Built to size -/

theorem label_keeps (length : Nat) : (label length : Draw σ String).Keeps I :=
  (Draw.letter_keeps.times length).map _

theorem passwordText_keeps (length : Nat) : (passwordText length : Draw σ String).Keeps I :=
  (Draw.alphanumeric_keeps.times length).map _

theorem builtHost_keeps {length : Nat} (long : 3 ≤ length) : (builtHost length : Draw σ String).Keeps I := by
  have room : (if 6 ≤ length then 3 else 1) ≤ length - 1 := by
    split <;> omega
  refine (Draw.minus_keeps (by omega)).bind fun rest same => ?_
  subst same
  refine (Draw.minus_keeps room).bind fun _ _ => ?_
  exact (label_keeps _).bind fun _ _ => (label_keeps _).map _

theorem builtMail_keeps {length : Nat} (long : 5 ≤ length) : (builtMail length : Draw σ String).Keeps I := by
  have host : 3 ≤ Nat.max ((length - 1) / 2) 3 := Nat.le_max_right _ _
  have room : Nat.max ((length - 1) / 2) 3 ≤ length - 1 := Nat.max_le.mpr ⟨Nat.div_le_self _ _, by omega⟩
  refine (Draw.minus_keeps (by omega)).bind fun rest same => ?_
  subst same
  refine (Draw.minus_keeps room).bind fun _ _ => ?_
  exact (label_keeps _).bind fun _ _ => (builtHost_keeps host).map _

theorem builder?_floor {format : String} {floor : Nat} {build : Nat → Draw σ String}
    (found : builder? format = some (floor, build)) : floor ≤ 5 := by
  unfold builder? at found
  split at found <;> cases found <;> decide

/-- What is built has at least the length that its format asks for. -/
theorem builder?_keeps {format : String} {floor length : Nat} {build : Nat → Draw σ String}
    (found : builder? format = some (floor, build)) (long : floor ≤ length) :
    (build length).Keeps I := by
  unfold builder? at found
  split at found <;> cases found
  · exact builtMail_keeps long
  · exact builtMail_keeps long
  · exact builtHost_keeps long
  · exact builtHost_keeps long
  · exact passwordText_keeps length

theorem builtLength_keeps (floor min max : Nat) : (builtLength floor min max : Draw σ (Option Nat)).Keeps I
    fun length => ∀ n ∈ length, floor ≤ n ∧ n ≤ Nat.max min floor + builtSlack := by
  unfold builtLength
  dsimp only
  split
  · exact Draw.keeps_pure (by simp)
  · rename_i inhabited
    refine (Draw.natBetween_keeps (Nat.not_lt.mp inhabited)).bind fun n within => Draw.keeps_pure ?_
    intro length same
    cases same
    exact ⟨Nat.le_trans (Nat.le_max_right _ _) within.1, Nat.le_trans within.2 (Nat.min_le_right _ _)⟩

/-! ### Formats -/

structure Samples.Keeps (samples : Samples σ) (I : Invariant σ) : Prop where
  mail : samples.mail.Keeps I
  host : samples.host.Keeps I
  link : samples.link.Keeps I
  phone : samples.phone.Keeps I

theorem recentInstant_keeps (now : Instant) : (recentInstant now : Draw σ Instant).Keeps I :=
  (Draw.natBetween_keeps (Nat.zero_le _)).bind fun _ _ => Draw.keeps_pure trivial

theorem formatText_keeps {samples : Samples σ} (sampled : samples.Keeps I) {now : Instant}
    {format : String} {draw : Draw σ String} (found : formatText samples now format = some draw) :
    draw.Keeps I := by
  unfold formatText at found
  split at found <;> simp only [Option.some.injEq, reduceCtorEq] at found <;> subst found
  · exact (Draw.byte_keeps.times 16).map _
  · exact sampled.mail
  · exact sampled.mail
  · exact (recentInstant_keeps now).map _
  · exact (recentInstant_keeps now).map _
  · exact (recentInstant_keeps now).map _
  · exact sampled.link
  · exact sampled.link
  · exact sampled.link
  · exact sampled.link
  · exact sampled.host
  · exact sampled.host
  · exact (Draw.byte_keeps.times 4).map _
  · exact (Draw.short_keeps.times 8).map _
  · exact sampled.phone
  · exact passwordText_keeps 12

theorem drawFitting_keeps {draw : Draw σ String} (keeps : draw.Keeps I) (min max fuel : Nat) :
    (drawFitting min max draw fuel).Keeps I := by
  induction fuel with
  | zero => exact Draw.keeps_pure trivial
  | succ fuel ih =>
    refine keeps.bind fun text _ => ?_
    split
    · exact Draw.keeps_pure trivial
    · exact ih

omit [Source σ] in
theorem holdBelow_keeps {H : σ → Prop} {limit length : Nat} (short : length < limit) :
    Keeps H F (holdBelow limit length) := by
  unfold holdBelow
  rw [if_neg (Nat.not_le.mpr short)]
  exact keeps_pure trivial

/-- A text that is built to size is at most a slack longer than its least length, which leaves room for
it. -/
theorem sizedFormatText_keeps {samples : Samples σ} (sampled : samples.Keeps I) (now : Instant)
    (format : String) {min : Nat} (short : min < unholdableLength) (max : Nat) :
    Keeps I.Holds F (sizedFormatText samples now format min max) := by
  unfold sizedFormatText
  cases found : formatText samples now format with
  | none => exact keeps_pure trivial
  | some draw =>
    have fitting := drawFitting_keeps (formatText_keeps sampled found) min max formatAttempts
    refine (keeps_drawn fitting).bind fun text _ => ?_
    cases text with
    | some text => exact keeps_pure trivial
    | none =>
      dsimp only
      cases built : (builder? format : Option (Nat × (Nat → Draw σ String))) with
      | none => exact keeps_pure trivial
      | some entry =>
        obtain ⟨floor, build⟩ := entry
        refine (keeps_drawn (builtLength_keeps floor min max)).bind fun length within => ?_
        cases length with
        | none => exact keeps_pure trivial
        | some length =>
          obtain ⟨long, most⟩ := within length rfl
          have floor_short : floor < unholdableLength :=
            Nat.lt_of_le_of_lt (builder?_floor built) (by decide)
          have least : Nat.max min floor < unholdableLength := Nat.max_lt.mpr ⟨short, floor_short⟩
          have held : length < textCapacity := by
            unfold unholdableLength at least
            unfold builtSlack at most
            unfold textCapacity
            omega
          refine (holdBelow_keeps held).bind fun _ _ => ?_
          exact (keeps_drawn (builder?_keeps built long)).map _

/-! ### Sample texts -/

theorem pick_keeps (words : List String) : (pick words : Draw σ String).Keeps I := (Draw.below32_keeps _).map _

theorem fillDigits_keeps (form : List Char) : (fillDigits form : Draw σ (List Char)).Keeps I := by
  induction form with
  | nil => exact Draw.keeps_pure trivial
  | cons c rest ih =>
    unfold fillDigits
    split
    · rename_i same
      cases same
    · rename_i same
      cases same
      exact (Draw.below32_keeps 10).bind fun _ _ => ih.map _
    · rename_i same
      cases same
      exact ih.map _

theorem sampleHost_keeps : (sampleHost : Draw σ String).Keeps I :=
  (pick_keeps _).bind fun _ _ => (pick_keeps _).map _

theorem samples_ofVocabulary_keeps : (Samples.ofVocabulary : Samples σ).Keeps I where
  mail := (pick_keeps _).bind fun _ _ => (pick_keeps _).map _
  host := sampleHost_keeps
  link := sampleHost_keeps.bind fun _ _ => (pick_keeps _).map _
  phone := (pick_keeps _).bind fun _ _ => (fillDigits_keeps _).map _

end MockApi.Generation

namespace MockApi

open Binary64

namespace Schema.NumericBounds

/-- The ends of a range are numbers. -/
structure Numeric (bounds : NumericBounds) : Prop where
  min : bounds.min ≠ .nan
  max : bounds.max ≠ .nan

theorem numeric_of_ends {min max : Binary64} (least : min ≠ .nan) (most : max ≠ .nan)
    (minExclusive maxExclusive : Bool) : Numeric ⟨min, minExclusive, max, maxExclusive⟩ :=
  ⟨least, most⟩

theorem numeric_ofKeywords (k : Keywords) : Numeric (.ofKeywords k) := by
  obtain ⟨span, span_eq⟩ := exists_finite (x := defaultSpan) (by decide +kernel)
  unfold ofKeywords
  rcases mergeBound k.minimum k.exclusiveMinimum Binary64.max with ⟨_ | lo, minExclusive⟩ <;>
    rcases mergeBound k.maximum k.exclusiveMaximum Binary64.min with ⟨_ | hi, maxExclusive⟩ <;>
    simp only [span_eq]
  · exact numeric_of_ends (finite_ne_nan _) (finite_ne_nan _) _ _
  · by_cases above : zero.lt hi = true
    · rw [if_pos above]
      exact numeric_of_ends (finite_ne_nan _) (finite_ne_nan hi) _ _
    · rw [if_neg above]
      dsimp only
      exact numeric_of_ends (sub_finite_ne_nan (finite_ne_nan hi) span) (finite_ne_nan hi) _ _
  · exact numeric_of_ends (finite_ne_nan lo) (add_finite_ne_nan (finite_ne_nan lo) span) _ _
  · exact numeric_of_ends (finite_ne_nan lo) (finite_ne_nan hi) _ _

end Schema.NumericBounds

namespace Generation

open Schema

variable {σ : Type} [Source σ] {I : Invariant σ} {bounds : NumericBounds}

theorem factorBounds_ne_nan (numeric : bounds.Numeric) {step : Finite} (positive : zero.lt step) :
    (factorBounds bounds step).1 ≠ .nan ∧ (factorBounds bounds step).2 ≠ .nan := by
  obtain ⟨one', one_eq⟩ := exists_finite (x := one) (by decide +kernel)
  have nonzero : step.units ≠ 0 := by
    intro none
    simp [lt, zero, Finite.signed, Finite.zero, none] at positive
  have low : (bounds.min.div step).ceil ≠ .nan := ceil_ne_nan (div_finite_ne_nan numeric.min nonzero)
  have high : (bounds.max.div step).floor ≠ .nan := floor_ne_nan (div_finite_ne_nan numeric.max nonzero)
  unfold factorBounds
  rw [one_eq]
  constructor
  · dsimp only
    split
    · exact low
    · exact add_finite_ne_nan low one'
  · dsimp only
    split
    · exact high
    · exact sub_finite_ne_nan high one'

theorem multipleDraw_keeps (numeric : bounds.Numeric) {step : Finite} (positive : zero.lt step) :
    (multipleDraw bounds step : Draw σ Binary64).Keeps I := by
  obtain ⟨low, high⟩ := factorBounds_ne_nan numeric positive
  unfold multipleDraw
  dsimp only
  split
  · exact Draw.keeps_pure trivial
  · rename_i inhabited
    have ordered := (lt_eq_false_iff high low).mp (Bool.eq_false_iff.mpr inhabited)
    exact (Draw.intBetween_keeps (toInt64_mono ordered)).map _

theorem spreadDraw_keeps (numeric : bounds.Numeric) : (spreadDraw bounds : Draw σ Binary64).Keeps I := by
  unfold spreadDraw
  split
  · exact Draw.keeps_pure trivial
  · rename_i apart
    have less := (le_eq_false_iff numeric.max numeric.min).mp (Bool.eq_false_iff.mpr apart)
    have ordered : (Demand.ends bounds.min bounds.max).Met := (lt_iff_le_and_ne.mp less).1
    exact Draw.unit_keeps.bind fun t _ => Draw.rely_bind ordered (Draw.keeps_pure trivial)

theorem numberDraw_keeps (k : Keywords) : (numberDraw k : Draw σ Json).Keeps I := by
  have numeric := NumericBounds.numeric_ofKeywords k
  unfold numberDraw
  dsimp only
  split
  · rename_i step stated
    obtain ⟨given, positive⟩ := Option.filter_eq_some_iff.mp stated
    obtain ⟨x, -, same⟩ := Option.bind_eq_some_iff.mp given
    obtain rfl : finite x = step := Option.some.inj same
    exact (multipleDraw_keeps numeric positive).map _
  · exact (spreadDraw_keeps numeric).map _

theorem integerDraw_keeps (k : Keywords) : (integerDraw k : Draw σ Json).Keeps I := by
  unfold integerDraw
  split
  split
  · dsimp only
    split
    · exact Draw.keeps_pure trivial
    · rename_i inhabited
      exact (Draw.intBetween_keeps (Int.not_lt.mp inhabited)).map _
  · split
    · exact Draw.keeps_pure trivial
    · rename_i apart
      exact (Draw.intBetween_keeps (Int.le_of_lt (Int.not_le.mp apart))).map _

end Generation

end MockApi
