import MockApi.Proofs.Config.Checks
import MockApi.Proofs.Engine.Fates
import MockApi.Proofs.Generation.Finite

/-!
# Injected delays and errors

What a scenario adds to a request, for every state of the source that it draws from: a delay that is in the band, and an
error with one of the statuses, always or never if the probability is one or nought. The error is told with its status in
two places, and with the number of the request (`Response.Tells`).
-/

namespace MockApi

open Binary64

/-! ### Draws -/

/-- A draw from the unit interval is below one by a part of the significand at least. -/
theorem Draw.unit_gives_below {σ : Type} [Source σ] : (Draw.unit : Draw σ Binary64).Gives fun t =>
    ∃ y : Finite, t = .finite y ∧ 0 ≤ y.signed ∧ y.signed < unitsPerOne := by
  refine (gives_any _).bind fun word _ => gives_pure ?_
  have parts : word.toNat / 2 ^ 11 ≤ 2 ^ 53 - 1 := by
    have small := word.toNat_lt
    omega
  obtain ⟨t, t_eq, positive, -⟩ := unit_isFinite (Nat.le_trans parts (Nat.sub_le _ _))
  refine ⟨t, t_eq, ?_⟩
  obtain ⟨k, split⟩ : ∃ k, unitsPerOne = 2 ^ k * 2 ^ 53 := ⟨1021, by rw [unitsPerOne, ← Nat.pow_add]⟩
  have below : t.units ≤ (2 ^ 53 - 1) * 2 ^ k := by
    rw [(units_of_ofRatio t_eq).1]
    refine nearest_le (Nat.two_pow_pos 53) ?_ (spacing_dvd (Nat.sub_le _ _))
    rw [split, ← Nat.mul_assoc]
    exact Nat.mul_le_mul_right _ (Nat.mul_le_mul_right _ parts)
  have gap : (2 ^ 53 - 1) * 2 ^ k < unitsPerOne := by
    rw [split, Nat.mul_comm]
    exact Nat.mul_lt_mul_of_pos_left (Nat.sub_lt (Nat.two_pow_pos 53) Nat.one_pos) (Nat.two_pow_pos k)
  rw [Finite.signed_of_not_negative positive]
  exact ⟨Int.natCast_nonneg _, Int.ofNat_lt.mpr (Nat.lt_of_le_of_lt below gap)⟩

namespace Injector

variable {bands : Config.Bands} {scenario : Scenario}

/-! ### Delays -/

theorem delayDraw_gives (sound : bands.Sound) : (delayDraw bands).Gives fun delay =>
    bands.slowMin ≤ delay ∧ delay ≤ bands.slowMax := by
  have lower : Nat.min bands.slowMin bands.slowMax = bands.slowMin := Nat.min_eq_left sound.ordered
  have upper : Nat.max bands.slowMin bands.slowMax = bands.slowMax := Nat.max_eq_right sound.ordered
  rw [delayDraw, lower, upper]
  exact Draw.natBetween_gives sound.ordered

/-! ### Errors -/

theorem statusDraw_gives (sound : bands.Sound) : (statusDraw bands).Gives fun status? =>
    ∀ status ∈ status?, status ∈ bands.errorStatuses := by
  refine (Draw.gives_any _).bind fun t _ => ?_
  split
  · exact Draw.gives_pure nofun
  · cases given : bands.errorStatuses with
    | nil => exact absurd given sound.nonempty
    | cons first rest =>
      refine (Draw.gives_any _).bind fun i _ => Draw.gives_pure ?_
      rintro status ⟨⟩
      rw [List.getD_eq_getElem?_getD]
      cases place : (first :: rest)[i]? with
      | none => exact List.mem_cons_self
      | some status => exact List.mem_of_getElem? place

theorem statusDraw_never (never : bands.errorProbability.eq zero) : (statusDraw bands).Gives (· = none) := by
  refine Draw.unit_gives_below.bind fun t below => ?_
  obtain ⟨y, rfl, least, -⟩ := below
  have reached : bands.errorProbability.le (.finite y) = true := by
    cases given : bands.errorProbability with
    | finite p =>
      rw [given] at never
      have nought : p.signed = 0 := of_decide_eq_true never
      exact le_finite_iff.mpr (nought ▸ least)
    | infinite | nan => rw [given] at never; cases never
  rw [if_pos reached]
  exact Draw.gives_pure rfl

theorem statusDraw_always (always : bands.errorProbability.eq one) : (statusDraw bands).Gives (·.isSome) := by
  refine Draw.unit_gives_below.bind fun t below => ?_
  obtain ⟨y, rfl, -, most⟩ := below
  obtain ⟨one', one_eq, positive, units⟩ := one_isFinite
  have missed : bands.errorProbability.le (.finite y) ≠ true := by
    rw [one_eq] at always
    cases given : bands.errorProbability with
    | finite p =>
      rw [given] at always
      have whole : p.signed = one'.signed := of_decide_eq_true always
      rw [Finite.signed_of_not_negative positive, units] at whole
      rw [ne_eq, le_finite_iff]
      omega
    | infinite | nan => rw [given] at always; cases always
  rw [if_neg missed]
  cases bands.errorStatuses with
  | nil => exact Draw.gives_pure rfl
  | cons first rest => exact (Draw.gives_any _).bind fun _ _ => Draw.gives_pure rfl

/-! ### One request -/

/-- What a scenario did to a request: whether it delayed it and failed it, and what it drew. -/
structure Draws (scenario : Scenario) (before after : Injector) (delay : Option Nat) (error : Option Error) : Prop where
  bands : after.bands = before.bands
  numbered : after.numbered = before.numbered + scenario.injectsErrors.toNat
  delays : delay.isSome = scenario.injectsLatency
  within : ∀ d ∈ delay, before.bands.slowMin ≤ d ∧ d ≤ before.bands.slowMax
  fails : error.isSome → scenario.injectsErrors
  told : ∀ e ∈ error, ∃ status ∈ before.bands.errorStatuses, e = injectedError scenario (before.numbered + 1) status
  never : before.bands.errorProbability.eq zero → error = none
  always : before.bands.errorProbability.eq one → scenario.injectsErrors → error.isSome

theorem draws_sample {i : Injector} (sound : i.bands.Sound) (scenario : Scenario) :
    let delayed := i.sampleDelay scenario
    let failed := delayed.1.sampleError scenario
    Draws scenario i failed.1 delayed.2 failed.2 := by
  have within := delayDraw_gives sound i.source
  obtain ⟨source, delay, delayed⟩ : ∃ source delay, i.sampleDelay scenario = ({ i with source }, delay) ∧
      delay.isSome = scenario.injectsLatency ∧ ∀ d ∈ delay, i.bands.slowMin ≤ d ∧ d ≤ i.bands.slowMax := by
    unfold sampleDelay
    split
    · rename_i waits
      exact ⟨_, _, rfl, waits.symm, fun d drawn => Option.some.inj drawn ▸ within⟩
    · rename_i waits
      exact ⟨_, _, rfl, (Bool.eq_false_iff.mpr waits).symm, nofun⟩
  obtain ⟨delayed, delays, within⟩ := delayed
  rw [delayed]
  dsimp only
  unfold sampleError
  split
  · rename_i errs
    have listed : ∀ status ∈ (statusDraw i.bands source).1, status ∈ i.bands.errorStatuses := statusDraw_gives sound source
    have never (p : i.bands.errorProbability.eq zero) : (statusDraw i.bands source).1 = none := statusDraw_never p source
    have always (p : i.bands.errorProbability.eq one) : (statusDraw i.bands source).1.isSome := statusDraw_always p source
    generalize statusDraw i.bands source = drawn at listed never always ⊢
    obtain ⟨status?, source'⟩ := drawn
    refine ⟨rfl, by rw [errs]; rfl, delays, within, fun _ => errs, ?_, fun p => ?_, fun p _ => ?_⟩
    · intro e told
      obtain ⟨status, drawn, rfl⟩ := Option.map_eq_some_iff.mp told
      exact ⟨status, listed status drawn, rfl⟩
    · exact Option.map_eq_none_iff.mpr (never p)
    · exact Option.isSome_map.trans (always p)
  · rename_i errs
    exact ⟨rfl, by rw [Bool.eq_false_iff.mpr errs]; rfl, delays, within, nofun, nofun, fun _ => rfl,
      fun _ fails => absurd fails errs⟩

end Injector

/-! ### Responses -/

theorem Error.members_envelopeOf (kind message : String) (details : Json) :
    let envelope := envelopeOf kind message (some details)
    envelope.member? "error" = some (.string kind) ∧ envelope.member? "message" = some (.string message) ∧
      envelope.member? "details" = some details := by
  have error_details : "error" ≠ "details" := by decide
  have error_message : "error" ≠ "message" := by decide
  have message_details : "message" ≠ "details" := by decide
  refine ⟨?_, ?_, Table.get?_insert_self _ _ _⟩
  · exact (Table.get?_insert_of_ne _ _ error_details).trans
      ((Table.get?_insert_of_ne _ _ error_message).trans (Table.get?_insert_self _ _ _))
  · exact (Table.get?_insert_of_ne _ _ message_details).trans (Table.get?_insert_self _ _ _)

/-- The response tells of an error that a scenario injected: with its status in both places, and with a number. -/
structure Response.Tells (scenario : Scenario) (number status : Nat) (response : Response) : Prop where
  code : response.status = status
  kind : response.body.member? "error" = some (.string "ScenarioError")
  details : (response.body.member? "details").bind (·.member? "status") = some (.ofNat status)
  message : response.body.member? "message" = some (.string ("Injected " ++ toString status ++ " error by scenario '" ++
    scenario.name ++ "' (request #" ++ toString number ++ ")"))

theorem tells_injectedError (scenario : Scenario) (number : Nat) {status : Nat} (wrong : 400 ≤ status ∧ status ≤ 599) :
    Response.Tells scenario number status (.ofError (Injector.injectedError scenario number status)) := by
  obtain ⟨kind, message, details⟩ := Error.members_envelopeOf "ScenarioError"
    (Injector.injectedError scenario number status).message (.ofMembers [("status", .ofNat status)])
  have valid : Error.isStatus status = true := by
    simp only [Error.isStatus, Bool.and_eq_true, decide_eq_true_eq]
    omega
  exact ⟨if_pos valid, kind, (congrArg (·.bind (·.member? "status")) details).trans rfl, message⟩

end MockApi
