import MockApi.Generation.Value
import Mathlib.Data.List.Forall2

/-!
# What a draw yields, whatever the source

Draws, generations and walks are judged by what they end with, for every state of the source: a draw
`Gives` what satisfies a property, and a generation and a walk also have to succeed. A walk is judged
while certain references are being followed, and has to leave them as they are.
-/

namespace MockApi

variable {σ α β : Type}

/-- Every value that is drawn has the property. -/
def Draw.Gives (draw : Draw σ α) (P : α → Prop) : Prop := ∀ source, P (draw source).1

namespace Generation

/-- The generation succeeds, and its value has the property. -/
def Generate.Gives (g : Generate σ α) (P : α → Prop) : Prop :=
  ∀ source, ∃ value after, g source = (.ok value, after) ∧ P value

/-- The walk succeeds while these references are being followed, and its value has the property. -/
def Walking.Yields (part : Walking σ α) (following : List String) (P : α → Prop) : Prop :=
  ∀ source, ∃ value after, part ⟨source, following⟩ = (.ok value, ⟨after, following⟩) ∧ P value

variable {P : α → Prop} {Q : β → Prop}

/-! ### One step after another -/

section

variable {τ : Type} {part : ExceptT Fault (StateM τ) α} {next : α → ExceptT Fault (StateM τ) β}
  {before after : τ}

theorem bind_of_ok {value : α} (run : part before = (.ok value, after)) :
    (part >>= next) before = next value after := by
  show (ExceptT.bindCont next (part before).1) (part before).2 = _
  rw [run]
  rfl

theorem bind_of_error {fault : Fault} (run : part before = (.error fault, after)) :
    (part >>= next) before = (.error fault, after) := by
  show (ExceptT.bindCont next (part before).1) (part before).2 = _
  rw [run]
  rfl

end

namespace Generate

theorem gives_pure {value : α} (h : P value) : Gives (pure value : Generate σ α) P :=
  fun source => ⟨value, source, rfl, h⟩

theorem Gives.bind {g : Generate σ α} {next : α → Generate σ β} (first : Gives g P)
    (then_ : ∀ value, P value → Gives (next value) Q) : Gives (g >>= next) Q := by
  intro source
  obtain ⟨value, after, run, holds⟩ := first source
  obtain ⟨result, last, run_next, holds_next⟩ := then_ value holds after
  exact ⟨result, last, (bind_of_ok run).trans run_next, holds_next⟩

theorem Gives.mono {g : Generate σ α} {P' : α → Prop} (gives : Gives g P)
    (weaker : ∀ value, P value → P' value) : Gives g P' := by
  intro source
  obtain ⟨value, after, run, holds⟩ := gives source
  exact ⟨value, after, run, weaker value holds⟩

theorem gives_drawn {draw : Draw σ α} (gives : draw.Gives P) : Gives (drawn draw) P :=
  fun source => ⟨(draw source).1, (draw source).2, rfl, gives source⟩

end Generate

namespace Walking

variable {following : List String}

theorem yields_pure {value : α} (h : P value) : Yields (pure value : Walking σ α) following P :=
  fun source => ⟨value, source, rfl, h⟩

theorem bind_run {part : Walking σ α} {next : α → Walking σ β} {walk middle last : Walk σ} {value : α}
    {result : β} (first : part walk = (.ok value, middle))
    (second : next value middle = (.ok result, last)) : (part >>= next) walk = (.ok result, last) :=
  (bind_of_ok first).trans second

theorem Yields.bind {part : Walking σ α} {next : α → Walking σ β} (first : part.Yields following P)
    (then_ : ∀ value, P value → (next value).Yields following Q) :
    (part >>= next).Yields following Q := by
  intro source
  obtain ⟨value, after, run, holds⟩ := first source
  obtain ⟨result, last, run_next, holds_next⟩ := then_ value holds after
  exact ⟨result, last, bind_run run run_next, holds_next⟩

theorem Yields.mono {part : Walking σ α} {P' : α → Prop} (yields : part.Yields following P)
    (weaker : ∀ value, P value → P' value) : part.Yields following P' := by
  intro source
  obtain ⟨value, after, run, holds⟩ := yields source
  exact ⟨value, after, run, weaker value holds⟩

theorem yields_lift {g : Generate σ α} (gives : g.Gives P) : (lift g).Yields following P := by
  intro source
  obtain ⟨value, after, run, holds⟩ := gives source
  refine ⟨value, after, ?_, holds⟩
  simp only [lift, run]

theorem yields_draw {d : Draw σ α} (gives : d.Gives P) : (draw d).Yields following P :=
  yields_lift (Generate.gives_drawn gives)

theorem yields_isFollowing (key : String) :
    (isFollowing key : Walking σ Bool).Yields following (· = following.contains key) :=
  fun source => ⟨_, source, rfl, rfl⟩

/-- Behind a reference its key is among those that are being followed, and before it is not again. -/
theorem yields_following {key : String} {part : Walking σ α}
    (yields : part.Yields (key :: following) P) : (Walking.following key part).Yields following P := by
  intro source
  obtain ⟨value, after, run, holds⟩ := yields source
  refine ⟨value, after, ?_, holds⟩
  simp [Walking.following, run]

theorem yields_mapM {R : α → β → Prop} {part : α → Walking σ β} {xs : List α}
    (each : ∀ x ∈ xs, (part x).Yields following (R x)) :
    (xs.mapM part).Yields following (List.Forall₂ R xs) := by
  induction xs with
  | nil => exact yields_pure .nil
  | cons x xs ih =>
    rw [List.mapM_cons]
    refine (each x List.mem_cons_self).bind fun y holds => ?_
    refine (ih fun x' mem => each x' (List.mem_cons_of_mem x mem)).bind fun ys rest => ?_
    exact yields_pure (.cons holds rest)

end Walking

end Generation

end MockApi
