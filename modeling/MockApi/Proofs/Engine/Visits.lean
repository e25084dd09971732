import MockApi.Engine.Visit
import MockApi.Proofs.Engine.Clients

/-!
# Visits come to an end

A visit takes a request through all stages (`Engine.receive_finishes`), as `Engine.handle` does where the
clock is read once (`Engine.receive_eq_handle`). One that is refused, since no route matches or since its
body is rejected, has not come to the stage where bodies are made, and leaves the compiler and the store
(`Engine.receive_refused`).
-/

namespace MockApi

namespace Client

/-- The request was answered by its route, or it will be. -/
def isAnswered (c : Client) : Bool :=
  match c.stage with
  | .making .. => true
  | _ => c.outcome.any fun outcome => outcome.failing? = none || outcome.failing? = some .failed

/-- No route matched, or strict mode rejected the body. -/
def isRefused (c : Client) : Bool :=
  c.outcome.any fun outcome =>
    outcome.failing? = some .notFound || outcome.failing? = some .rejected

/-- At its end a request is not both. -/
theorem isAnswered_eq_false {c : Client} {response : Response} {delay : Nat}
    (finished : c.stage = .finished response delay) (refused : c.isRefused) :
    c.isAnswered = false := by
  rw [isAnswered, finished]
  rw [isRefused] at refused
  cases known : c.outcome with
  | none => rfl
  | some outcome =>
    rw [known] at refused
    cases outcome <;> first | rfl | cases refused

end Client

theorem Visit.reading_once (request : Request) (now : Instant) (stage : Stage) :
    Visit.reading ⟨request, now, now⟩ stage = now := by
  cases stage with
  | answering m delay =>
    simp only [reading]
    split <;> rfl
  | _ => rfl

namespace Engine

variable {e : Engine} {v : Visit} {c : Client} {fuel : Nat}

theorem Passage.answers {s : Setting} {e' : Engine} {now : Instant} {stage : Stage} (sound : c.Sound s)
    (passage : Passage e now c.request c.stage e' stage) :
    (c.isAnswered → (c.goTo stage).isAnswered) ∧
      (e'.backend = e.backend ∨ (c.goTo stage).isAnswered) := by
  have begun (m : RouteMatch) (delay : Nat) (making : Making) :
      (c.goTo (afterMaking m delay making)).isAnswered := by
    cases making with
    | minting | counting => rfl
    | made result => cases result <;> rfl
  obtain ⟨request, before, matched, outcome⟩ := c
  dsimp only at passage
  cases passage with
  | begun | advanced => exact ⟨fun _ => begun .., .inr (begun ..)⟩
  | unmatched | injected | rejected =>
    obtain ⟨rfl, rfl, -⟩ := sound
    exact ⟨nofun, .inl rfl⟩
  | _ => exact ⟨id, .inl rfl⟩

/-! ### To the end -/

theorem attend_finishes (near : c.stage.distance ≤ fuel) :
    ∃ response delay, (e.attend v fuel c).2.stage = .finished response delay := by
  induction fuel generalizing e c with
  | zero => exact eq_finished (Nat.le_zero.mp near)
  | succ fuel ih =>
    have nearer := (passage_advance e (v.reading c.stage) c.request c.stage).distance_le
    exact ih (Nat.le_trans nearer (by omega))

theorem receive_finishes (e : Engine) (v : Visit) :
    ∃ response delay, (e.receive v).2.stage = .finished response delay :=
  attend_finishes (Nat.le_refl _)

/-- Until a body is made, the compiler and the store are as they were. -/
theorem attend_answers {s : Setting} (sound : c.Sound s) (allows : s.Allows e) (fuel : Nat) :
    (c.isAnswered → (e.attend v fuel c).2.isAnswered) ∧
      ((e.attend v fuel c).1.backend = e.backend ∨ (e.attend v fuel c).2.isAnswered) := by
  induction fuel generalizing e c with
  | zero => exact ⟨id, .inl rfl⟩
  | succ fuel ih =>
    have passage := passage_advance e (v.reading c.stage) c.request c.stage
    obtain ⟨stays, begins⟩ := passage.answers sound
    obtain ⟨stays', begins'⟩ := ih (sound.goTo allows passage) (allows.passage passage)
    refine ⟨fun answered => stays' (stays answered), ?_⟩
    rcases begins with same | answered
    · exact begins'.imp_left (·.trans same)
    · exact .inr (stays' answered)

theorem attend_sameSetup (e : Engine) (v : Visit) (fuel : Nat) (c : Client) :
    SameSetup e (e.attend v fuel c).1 := by
  induction fuel generalizing e c with
  | zero => exact .refl e
  | succ fuel ih =>
    exact (passage_advance e (v.reading c.stage) c.request c.stage).sameSetup.trans (ih _ _)

theorem receive_refused (refused : (e.receive v).2.isRefused) :
    (e.receive v).1.backend = e.backend := by
  have allows : (Setting.anyRoutes e).Allows e := ⟨rfl, trivial⟩
  obtain ⟨-, begins⟩ := attend_answers (v := v) (Client.sound_start _ v.request) allows stageLimit
  refine begins.resolve_right fun answered => ?_
  obtain ⟨response, delay, finished⟩ := receive_finishes e v
  cases (Client.isAnswered_eq_false finished refused).symm.trans answered

/-! ### One reading of the clock -/

theorem attend_eq_run (request : Request) (now : Instant) (e : Engine) (fuel : Nat) (c : Client) :
    (e.attend ⟨request, now, now⟩ fuel c).1 = (e.run now c.request fuel c.stage).1 ∧
      (e.attend ⟨request, now, now⟩ fuel c).2.stage = (e.run now c.request fuel c.stage).2 := by
  induction fuel generalizing e c with
  | zero => exact ⟨rfl, rfl⟩
  | succ fuel ih =>
    rw [attend, Visit.reading_once]
    exact ih _ _

theorem receive_eq_handle (e : Engine) (now : Instant) (request : Request) :
    (e.receive ⟨request, now, now⟩).1 = (e.handle now request).1 ∧
      (e.receive ⟨request, now, now⟩).2.response? = some (e.handle now request).2.1 := by
  obtain ⟨engine, stage⟩ := attend_eq_run request now e stageLimit { request }
  rw [run_stageLimit] at engine stage
  exact ⟨engine, congrArg Stage.response? stage⟩

end Engine

end MockApi
