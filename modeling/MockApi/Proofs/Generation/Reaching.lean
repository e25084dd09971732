import MockApi.Proofs.Generation.Finite
import MockApi.Random.Script

/-!
# What draws may give

A script of words brings a draw to a value (`Draw.Reaches`). Every number of a range is reached, and every
member of a list, so that a number that is too large is reached as soon as a multiple of the step is
(`numberDraw_reaches_null`).
-/

namespace MockApi

namespace Draw

variable {α β : Type}

/-- Some words bring the draw to a value, whatever is left to be played behind them. -/
def Reaches (draw : Draw Script α) (value : α) : Prop :=
  ∃ words, ∀ rest counter drawn, draw ⟨words ++ rest, counter, drawn⟩ =
    (value, ⟨rest, counter, drawn + words.length⟩)

theorem reaches_pure (value : α) : Reaches (pure value) value := ⟨[], fun _ _ _ => rfl⟩

theorem Reaches.bind {draw : Draw Script α} {next : α → Draw Script β} {value : α} {result : β}
    (first : Reaches draw value) (then_ : Reaches (next value) result) :
    Reaches (draw >>= next) result := by
  obtain ⟨words, run⟩ := first
  obtain ⟨more, run'⟩ := then_
  refine ⟨words ++ more, fun rest counter drawn => ?_⟩
  have whole : (draw >>= next) ⟨words ++ more ++ rest, counter, drawn⟩ =
      next (draw ⟨words ++ more ++ rest, counter, drawn⟩).1 (draw ⟨words ++ more ++ rest, counter, drawn⟩).2 :=
    rfl
  rw [whole, List.append_assoc, run, run', List.length_append, Nat.add_assoc]

theorem Reaches.map {draw : Draw Script α} {value : α} (reaches : Reaches draw value) (f : α → β) :
    Reaches (do return f (← draw)) (f value) :=
  reaches.bind (reaches_pure (f value))

theorem word64_reaches (word : UInt64) : Reaches word64 word := ⟨[word], fun _ _ _ => rfl⟩

theorem rely_reaches (demand : Demand) : Reaches (rely demand) () := ⟨[], fun _ _ _ => rfl⟩

/-- The first word that lies in a cell is accepted. -/
theorem spread_first {n place : Nat} (small : place < n) (fits : n ≤ 2 ^ 64) :
    ∃ word : UInt64, (spread n 64 word.toNat).1 = place ∧ (spread n 64 word.toNat).2 < n := by
  have positive : 0 < n := Nat.lt_of_le_of_lt (Nat.zero_le place) small
  have within : place * 2 ^ 64 + n - 1 < n * 2 ^ 64 := by
    have cells : (place + 1) * 2 ^ 64 ≤ n * 2 ^ 64 := Nat.mul_le_mul_right _ small
    omega
  have below : (place * 2 ^ 64 + n - 1) / n < 2 ^ 64 := by
    rw [Nat.div_lt_iff_lt_mul positive, Nat.mul_comm (2 ^ 64)]
    exact within
  have least := Nat.div_add_mod (place * 2 ^ 64 + n - 1) n
  have rest := Nat.mod_lt (place * 2 ^ 64 + n - 1) positive
  rw [Nat.mul_comm] at least
  refine ⟨UInt64.ofNat ((place * 2 ^ 64 + n - 1) / n), ?_⟩
  rw [UInt64.toNat_ofNat_of_lt' below, spread]
  omega

theorem below64_reaches {n place : Nat} (small : place < n) (fits : n ≤ 2 ^ 64) :
    Reaches (below64 n) place := by
  unfold below64
  split
  · rename_i all
    subst all
    have drawn := (word64_reaches (UInt64.ofNat place)).map UInt64.toNat
    rwa [UInt64.toNat_ofNat_of_lt' small] at drawn
  · obtain ⟨word, cell, inside⟩ := spread_first small fits
    have zone : (spread n 64 word.toNat).2 ≤ shiftedZone n 64 := by
      have width : n * 1 ≤ n * 2 ^ (64 - 1 - n.log2) := Nat.mul_le_mul_left n (Nat.two_pow_pos _)
      rw [shiftedZone]
      omega
    have spreads : Reaches (spread64 n) (spread n 64 word.toNat) :=
      (word64_reaches word).map fun word => spread n 64 word.toNat
    have tried : Reaches (retry (·.2 ≤ shiftedZone n 64) (spread64 n) redraws) (spread n 64 word.toNat) := by
      refine spreads.bind ?_
      rw [if_pos (decide_eq_true zone)]
      exact reaches_pure _
    have drawn := tried.map Prod.fst
    rwa [cell] at drawn

theorem intBetween_reaches {lo hi n : Int} (above : lo ≤ n) (below : n ≤ hi)
    (fits : hi - lo < (2 ^ 64 : Nat)) : Reaches (intBetween lo hi) n := by
  refine (rely_reaches _).bind ?_
  dsimp only
  split
  · have small : (n % (2 ^ 64 : Nat)).toNat < 2 ^ 64 := by omega
    have drawn := (word64_reaches (UInt64.ofNat (n % (2 ^ 64 : Nat)).toNat)).map fun word =>
      lo + ((word.toNat : Int) - lo) % (2 ^ 64 : Nat)
    have same : lo + (((n % (2 ^ 64 : Nat)).toNat : Int) - lo) % (2 ^ 64 : Nat) = n := by omega
    rwa [UInt64.toNat_ofNat_of_lt' small, same] at drawn
  · have small : (n - lo).toNat < (hi - lo + 1).toNat := by omega
    have drawn := (below64_reaches small (by omega)).map fun place : Nat => lo + (place : Int)
    have same : lo + ((n - lo).toNat : Int) = n := by omega
    rwa [same] at drawn

theorem index_reaches {length i : Nat} (small : i < length) (fits : length ≤ 2 ^ 64) :
    Reaches (index length) i := by
  have below := below64_reaches small fits
  exact (rely_reaches _).bind (below.bind ((rely_reaches _).bind (reaches_pure i)))

theorem oneOf_reaches {x value : α} {rest : List α} (mem : value ∈ x :: rest)
    (fits : rest.length < 2 ^ 64) : Reaches (oneOf x rest) value := by
  obtain ⟨i, small, found⟩ := List.getElem_of_mem mem
  have drawn := (index_reaches small fits).map fun i => (x :: rest).getD i x
  rwa [List.getD_eq_getElem _ _ small, found] at drawn

end Draw

namespace Generation

open Schema Binary64

variable {bounds : NumericBounds} {step : Finite} {factor : Int}

/-- What is too large stays so when it is rounded. -/
theorem roundTo_infinite (negative : Bool) {places : Nat} (few : places ≤ 10) :
    ∃ sign, roundTo (.infinite negative) places = .infinite sign := by
  obtain ⟨power, power_eq, units⟩ := powerOfTen_isFinite few
  have nonzero : power.units ≠ 0 := by
    have ten : 0 < 10 ^ places := Nat.pow_pos (by decide)
    rw [units]
    exact Nat.ne_of_gt (Nat.mul_pos ten unitsPerOne_pos)
  rw [roundTo, power_eq, mul, if_neg nonzero]
  exact ⟨_, rfl⟩

/-- A multiple that is not finite is infinite. -/
theorem multiple_infinite (small : factor.natAbs ≤ 2 ^ 63) (large : ¬((ofInt factor).mul step).IsFinite) :
    ∃ sign, (ofInt factor).mul step = .infinite sign := by
  obtain ⟨x, x_eq, -⟩ := ofInt_isFinite small
  rw [x_eq] at large ⊢
  exact ⟨_, ofRatio_eq_infinite large⟩

theorem multipleDraw_reaches (drawn : Factor bounds step factor) :
    Draw.Reaches (multipleDraw bounds step) (roundTo ((ofInt factor).mul step) (decimalPlaces step)) := by
  have least := (toInt64_bounds (factorBounds bounds step).1).1
  have most := (toInt64_bounds (factorBounds bounds step).2).2
  unfold multipleDraw
  dsimp only
  rw [drawn.inhabited, if_neg Bool.false_ne_true]
  exact (Draw.intBetween_reaches drawn.above drawn.below (by omega)).map fun factor =>
    roundTo ((ofInt factor).mul step) (decimalPlaces step)

/-- If a multiple that may be drawn is too large, no number may come of it. -/
theorem numberDraw_reaches_null {k : Keywords} (infinite : ¬MultiplesFinite k) :
    Draw.Reaches (numberDraw k) .null := by
  unfold MultiplesFinite at infinite
  push Not at infinite
  obtain ⟨step, stated, positive, factor, drawn, large⟩ := infinite
  obtain ⟨sign, multiple_eq⟩ := multiple_infinite drawn.natAbs_le large
  obtain ⟨sign', rounded_eq⟩ := roundTo_infinite sign (decimalPlaces_le step)
  have reached := (multipleDraw_reaches drawn).map Json.ofBinary64
  rw [multiple_eq, rounded_eq] at reached
  have chosen : Option.filter (zero.lt ·) (do let step ← some step; pure (Binary64.finite step)) =
      some (Binary64.finite step) := by
    show Option.filter (zero.lt ·) (some (Binary64.finite step)) = some (Binary64.finite step)
    rw [Option.filter_some, if_pos positive]
  unfold numberDraw
  rw [stated, chosen]
  exact reached

/-! ### Walks -/

namespace Walking

variable {α β : Type}

/-- Some words bring the walk to a value, whatever is being followed. -/
def Reaches (part : Walking Script α) (value : α) : Prop :=
  ∃ words, ∀ rest counter drawn following, part ⟨⟨words ++ rest, counter, drawn⟩, following⟩ =
    (.ok value, ⟨⟨rest, counter, drawn + words.length⟩, following⟩)

theorem reaches_pure (value : α) : Reaches (pure value) value := ⟨[], fun _ _ _ _ => rfl⟩

theorem reaches_draw {draw : Draw Script α} {value : α} (reaches : draw.Reaches value) :
    Reaches (Walking.draw draw) value := by
  obtain ⟨words, run⟩ := reaches
  refine ⟨words, fun rest counter drawn following => ?_⟩
  have run_lift : Walking.draw draw ⟨⟨words ++ rest, counter, drawn⟩, following⟩ =
      (.ok (draw ⟨words ++ rest, counter, drawn⟩).1, ⟨(draw ⟨words ++ rest, counter, drawn⟩).2, following⟩) :=
    rfl
  rw [run_lift, run]

theorem Reaches.bind {part : Walking Script α} {next : α → Walking Script β} {value : α} {result : β}
    (first : Reaches part value) (then_ : Reaches (next value) result) :
    Reaches (part >>= next) result := by
  obtain ⟨words, run⟩ := first
  obtain ⟨more, run'⟩ := then_
  refine ⟨words ++ more, fun rest counter drawn following => ?_⟩
  rw [List.append_assoc, List.length_append, ← Nat.add_assoc]
  exact bind_run (run (more ++ rest) counter drawn following) (run' rest counter _ following)

end Walking

end Generation

end MockApi
