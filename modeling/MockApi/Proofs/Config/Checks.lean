import MockApi.Config

/-!
# What the checks of a configuration establish

The sections of an accepted configuration have passed their own checks. The probabilities are numbers then, and the
bands of a scenario are in order and have statuses of errors (`Bands.Sound`).
-/

namespace MockApi

theorem bind_eq_ok {ε α β : Type} {x : Except ε α} {f : α → Except ε β} {y : β} :
    x >>= f = .ok y ↔ ∃ a, x = .ok a ∧ f a = .ok y := by
  cases x with
  | error e => exact iff_of_false nofun fun ⟨_, made, _⟩ => nomatch made
  | ok a => exact ⟨fun made => ⟨a, rfl, made⟩, fun ⟨_, same, made⟩ => Except.ok.inj same ▸ made⟩

namespace Config

open Binary64

/-! ### Probabilities -/

theorem generation_of_validate {config : Config} (valid : config.validate = .ok ()) :
    config.generation.validate = .ok () := by
  obtain ⟨_, -, valid⟩ := bind_eq_ok.mp valid
  obtain ⟨_, checked, -⟩ := bind_eq_ok.mp valid
  exact checked

/-- What is no number between nought and one is refused. -/
theorem Generation.finite_of_validate {g : Generation} (valid : g.validate = .ok ()) :
    ∃ p, g.optionalProbability = .finite p := by
  have refused {x : Binary64} (given : g.optionalProbability = x) (outside : (zero.le x && x.lt one) = false) : False := by
    have wrong : g.validate = refuse "generation.optional_property_probability"
        "optional_property_probability must be in [0.0, 1.0)" := by
      unfold validate
      rw [given, outside]
      rfl
    cases valid.symm.trans wrong
  cases given : g.optionalProbability with
  | finite p => exact ⟨p, rfl⟩
  | infinite negative => exact (refused given (by cases negative <;> decide +kernel)).elim
  | nan => exact (refused given (by decide +kernel)).elim

theorem Generation.number_of_validate {g : Generation} (valid : g.validate = .ok ()) : g.optionalProbability ≠ .nan := by
  obtain ⟨p, given⟩ := finite_of_validate valid
  rw [given]
  nofun

/-! ### Bands -/

/-- What the checks of the bands establish. -/
structure Bands.Sound (b : Bands) : Prop where
  ordered : b.slowMin ≤ b.slowMax
  least : zero.le b.errorProbability
  most : b.errorProbability.le one
  nonempty : b.errorStatuses ≠ []
  statuses : ∀ status ∈ b.errorStatuses, 400 ≤ status ∧ status ≤ 599

theorem firstWrongStatus_eq_none {index : Nat} {statuses : List Nat} (right : firstWrongStatus index statuses = none) :
    ∀ status ∈ statuses, 400 ≤ status ∧ status ≤ 599 := by
  induction statuses generalizing index with
  | nil => exact nofun
  | cons status rest ih =>
    rw [firstWrongStatus] at right
    split at right
    · rename_i first
      simp only [isErrorStatus, Bool.and_eq_true, decide_eq_true_eq] at first
      exact List.forall_mem_cons.mpr ⟨first, ih right⟩
    · cases right

theorem Bands.sound_of_validate {b : Bands} (valid : b.validate = .ok ()) : b.Sound := by
  unfold validate at valid
  simp only [bind, Except.bind, refuse, pure, Except.pure] at valid
  split at valid
  · cases valid
  rename_i ordered
  split at valid
  · cases valid
  rename_i probable
  split at valid
  · cases valid
  rename_i inhabited
  split at valid
  · cases valid
  rename_i right
  obtain ⟨least, most⟩ : zero.le b.errorProbability = true ∧ b.errorProbability.le one = true := by
    simpa using probable
  exact ⟨Nat.le_of_not_lt ordered, least, most, by simpa using inhabited, firstWrongStatus_eq_none right⟩

theorem bands_of_validate {config : Config} (valid : config.validate = .ok ()) : config.scenarios.Sound := by
  obtain ⟨_, -, valid⟩ := bind_eq_ok.mp valid
  obtain ⟨_, -, valid⟩ := bind_eq_ok.mp valid
  obtain ⟨_, checked, -⟩ := bind_eq_ok.mp valid
  exact Bands.sound_of_validate checked

theorem Bands.Sound.finite {b : Bands} (sound : b.Sound) : ∃ q, b.errorProbability = .finite q := by
  have outside (x : Binary64) (refused : (zero.le x && x.le one) = false) (given : b.errorProbability = x) : False := by
    rw [← given, sound.least, sound.most] at refused
    cases refused
  cases given : b.errorProbability with
  | finite q => exact ⟨q, rfl⟩
  | infinite negative => exact (outside _ (by cases negative <;> decide +kernel) given).elim
  | nan => exact (outside _ (by decide +kernel) given).elim

end Config

end MockApi
