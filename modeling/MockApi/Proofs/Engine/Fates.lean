import MockApi.Proofs.Engine.Visits

/-!
# What becomes of a request

The stages of a request add up to three cases (`Engine.receive_eq`): no route matches it, its scenario fails it, or the rest
of the stages answers it. The scenario acts once, between the match and the rest, and the rest looks at nothing that belongs
to the scenario (`Engine.settle_congr`).
-/

namespace MockApi

/-- What becomes of a request whose body is made. -/
def Making.outcome (route : Route) : Making → Outcome
  | .made result => Engine.outcomeOf route result
  | _ => .failed (.internal "unfinished")

namespace Client

/-- A client whose request has come to its end. -/
def ended (request : Request) (matched : Option RouteMatch) (outcome : Outcome) (delay : Nat) : Client :=
  ⟨request, .finished outcome.response delay, matched, some outcome⟩

end Client

namespace Engine

/-! ### The parts of a visit -/

/-- The outcome counted, and the time. -/
def close (e : Engine) (outcome : Outcome) (delay : Nat) : Engine :=
  (e.recorded outcome.record).recorded (·.recordLatency (delay * 10 ^ 6))

/-- The backend behind a matched request that no scenario stops, and what becomes of the request. -/
def settle (e : Engine) (v : Visit) (m : RouteMatch) : Backend × Outcome :=
  match e.rejection m.route v.request.body with
  | some failure => (e.backend, .rejected failure)
  | none =>
    let begun := e.backend.begin (v.reading (.answering m 0)) m.route.source m.params v.request.body
    let once := begun.1.advance v.stamp begun.2
    let twice := once.1.advance v.stamp once.2
    (twice.1, twice.2.outcome m.route)

/-- The milliseconds for which the route of a matched request lets it wait. -/
def patience (e : Engine) (v : Visit) (m : RouteMatch) : Nat :=
  match e.rejection m.route v.request.body with
  | some _ => 0
  | none => m.route.delay.getD 0

/-- A matched request that no scenario stops, from the rest of the stages to its end. -/
def answer (e : Engine) (v : Visit) (m : RouteMatch) (delay : Nat) : Engine × Client :=
  (close { e with backend := (e.settle v m).1 } (e.settle v m).2 (delay + e.patience v m),
    .ended v.request (some m) (e.settle v m).2 (delay + e.patience v m))

/-- What a scenario does to a matched request: it counts a delay, and gives the milliseconds and perhaps an error. -/
def tempt (e : Engine) : Engine × Nat × Option Error :=
  match e.config.server.scenario with
  | none => (e, 0, none)
  | some scenario =>
    let (injector, delay) := e.injector.sampleDelay scenario
    let stats := if delay.isSome then e.stats.recordInjectedDelay else e.stats
    let (injector, error) := injector.sampleError scenario
    ({ e with injector, stats }, delay.getD 0, error)

variable {e : Engine} {v : Visit}

/-- Only the backend counts, and whether the mode is strict. -/
theorem settle_congr {e' : Engine} (strict : e.config.server.strictMode = e'.config.server.strictMode)
    (backend : e.backend = e'.backend) (v : Visit) (m : RouteMatch) : e.settle v m = e'.settle v m := by
  rw [settle, settle, rejection, rejection, strict, backend]

/-! ### The last stages -/

theorem attend_step {e' : Engine} {c : Client} {stage : Stage}
    (advances : e.advance (v.reading c.stage) c.request c.stage = (e', stage)) (fuel : Nat) :
    e.attend v (fuel + 1) c = e'.attend v fuel (c.goTo stage) := by
  rw [attend, serve, advances]

theorem attend_finished {c : Client} {response : Response} {delay : Nat} (finished : c.stage = .finished response delay)
    (e : Engine) (fuel : Nat) : e.attend v fuel c = (e, c) := by
  obtain ⟨request, stage, matched, outcome⟩ := c
  obtain rfl : stage = .finished response delay := finished
  induction fuel with
  | zero => rfl
  | succ fuel ih => exact ih

theorem attend_settled (e : Engine) (fuel : Nat) (request : Request) (matched : Option RouteMatch) (outcome : Outcome)
    (delay : Nat) : e.attend v (fuel + 2) ⟨request, .settled outcome delay, matched, some outcome⟩ =
      (e.close outcome delay, .ended request matched outcome delay) :=
  attend_finished rfl _ fuel

/-- A body is made in two steps more at most. -/
theorem attend_afterMaking (e : Engine) (fuel : Nat) (request : Request) (m : RouteMatch) (delay : Nat) (making : Making) :
    let once := e.backend.advance v.stamp making
    let twice := once.1.advance v.stamp once.2
    e.attend v (fuel + 4) (Client.goTo ⟨request, .answering m delay, some m, none⟩ (afterMaking m delay making)) =
      (close { e with backend := twice.1 } (twice.2.outcome m.route) delay,
        .ended request (some m) (twice.2.outcome m.route) delay) := by
  cases making with
  | made result => exact attend_settled e (fuel + 2) ..
  | counting r members => exact attend_settled _ (fuel + 1) ..
  | minting r members => exact attend_settled _ fuel ..

theorem attend_checking (e : Engine) (v : Visit) (fuel : Nat) (m : RouteMatch) (delay : Nat) :
    e.attend v (fuel + 6) ⟨v.request, .checking m delay, some m, none⟩ = e.answer v m delay := by
  cases checked : e.rejection m.route v.request.body with
  | some failure =>
    have step : e.advance (v.reading (.checking m delay)) v.request (.checking m delay) =
        (e, .settled (.rejected failure) delay) := by
      simp only [advance, checked]
    have settled : e.settle v m = (e.backend, .rejected failure) := by simp only [settle, checked]
    have patient : e.patience v m = 0 := by simp only [patience, checked]
    rw [attend_step step, answer, settled, patient]
    exact attend_settled e (fuel + 3) v.request (some m) (.rejected failure) delay
  | none =>
    let begun := e.backend.begin (v.reading (.answering m 0)) m.route.source m.params v.request.body
    let waited := delay + m.route.delay.getD 0
    have step : e.advance (v.reading (.checking m delay)) v.request (.checking m delay) = (e, .answering m waited) := by
      simp only [advance, checked, waited]
    have begins : e.advance (v.reading (.answering m waited)) v.request (.answering m waited) =
        ({ e with backend := begun.1 }, afterMaking m waited begun.2) := rfl
    have settled : e.settle v m =
        let once := begun.1.advance v.stamp begun.2
        let twice := once.1.advance v.stamp once.2
        (twice.1, twice.2.outcome m.route) := by
      simp only [settle, checked, begun]
    have patient : e.patience v m = m.route.delay.getD 0 := by simp only [patience, checked]
    rw [attend_step step, answer, settled, patient]
    exact (attend_step begins (fuel + 4)).trans (attend_afterMaking { e with backend := begun.1 } fuel v.request m ..)

/-! ### The whole visit -/

/-- Behind the match a request goes through its scenario, and unless that fails it to the rest. -/
theorem attend_delaying (e : Engine) (v : Visit) (m : RouteMatch) :
    e.attend v 8 ⟨v.request, .delaying m, some m, none⟩ =
      match e.tempt with
      | (e, delay, some error) => (e.close (.injected error) delay, .ended v.request (some m) (.injected error) delay)
      | (e, delay, none) => e.answer v m delay := by
  cases set : e.config.server.scenario with
  | none =>
    have step : e.advance (v.reading (.delaying m)) v.request (.delaying m) = (e, .checking m 0) := by
      simp only [advance, set]
    have tempted : e.tempt = (e, 0, none) := by simp only [tempt, set]
    rw [attend_step step, tempted]
    exact attend_checking e v 1 m 0
  | some scenario =>
    rcases sampled : e.injector.sampleDelay scenario with ⟨injector, delay⟩
    let delayed : Engine :=
      { e with injector, stats := if delay.isSome then e.stats.recordInjectedDelay else e.stats }
    have step : e.advance (v.reading (.delaying m)) v.request (.delaying m) = (delayed, .risking m (delay.getD 0)) := by
      simp only [advance, set, sampled]
      cases delay <;> rfl
    rw [attend_step step]
    rcases risked : injector.sampleError scenario with ⟨injector', _ | error⟩
    · have next : delayed.advance (v.reading (.risking m (delay.getD 0))) v.request (.risking m (delay.getD 0)) =
          ({ delayed with injector := injector' }, .checking m (delay.getD 0)) := by
        simp only [advance, delayed, set, risked]
      have tempted : e.tempt = ({ delayed with injector := injector' }, delay.getD 0, none) := by
        simp only [tempt, set, sampled, risked, delayed]
      rw [tempted]
      exact (attend_step next 6).trans (attend_checking { delayed with injector := injector' } v 0 m (delay.getD 0))
    · have next : delayed.advance (v.reading (.risking m (delay.getD 0))) v.request (.risking m (delay.getD 0)) =
          ({ delayed with injector := injector' }, .settled (.injected error) (delay.getD 0)) := by
        simp only [advance, delayed, set, risked]
      have tempted : e.tempt = ({ delayed with injector := injector' }, delay.getD 0, some error) := by
        simp only [tempt, set, sampled, risked, delayed]
      rw [tempted]
      exact (attend_step next 6).trans (attend_settled { delayed with injector := injector' } 4 v.request (some m)
        (.injected error) (delay.getD 0))

/-- What becomes of a request: no route matches it, its scenario fails it, or the rest of the stages answers it. -/
theorem receive_eq (e : Engine) (v : Visit) : e.receive v =
    match e.table.matchRequest v.request.method v.request.path with
    | none =>
      ((e.recorded Stats.recordRequest).close (.notFound v.request.method v.request.path) 0,
        .ended v.request none (.notFound v.request.method v.request.path) 0)
    | some m =>
      match (e.recorded Stats.recordRequest).tempt with
      | (e, delay, some error) => (e.close (.injected error) delay, .ended v.request (some m) (.injected error) delay)
      | (e, delay, none) => e.answer v m delay := by
  have arrives : e.advance (v.reading .arrived) v.request .arrived = (e.recorded Stats.recordRequest, .routing) := rfl
  have start : e.receive v = Engine.attend v (e.recorded Stats.recordRequest) 9 ⟨v.request, .routing, none, none⟩ :=
    attend_step arrives 9
  cases found : e.table.matchRequest v.request.method v.request.path with
  | none =>
    have step : (e.recorded Stats.recordRequest).advance (v.reading .routing) v.request .routing =
        (e.recorded Stats.recordRequest, .settled (.notFound v.request.method v.request.path) 0) := by
      simp only [advance, recorded, found]
    exact start.trans ((attend_step step 8).trans (attend_settled _ 6 v.request none _ 0))
  | some m =>
    have step : (e.recorded Stats.recordRequest).advance (v.reading .routing) v.request .routing =
        (e.recorded Stats.recordRequest, .delaying m) := by
      simp only [advance, recorded, found]
    exact start.trans ((attend_step step 8).trans (attend_delaying (e.recorded Stats.recordRequest) v m))

end Engine

end MockApi
