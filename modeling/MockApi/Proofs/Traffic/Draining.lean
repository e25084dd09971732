import MockApi.Proofs.Traffic.Counting

/-!
# When draining is complete

The wait for an empty gate ends when nobody is counted behind it. A request that found the gate open and
is not counted yet gets in all the same. The drain is complete exactly if there is no such request when
the wait ends (`drained_iff`), and there can be one (`drain_misses_admitted`).
-/

namespace MockApi

theorem Gate.verdict_eq_true {timeout elapsed inFlight : Nat} :
    verdict timeout elapsed inFlight = some true ↔ inFlight = 0 := by
  unfold verdict
  split
  · simp [*]
  · split <;> simp [*]

namespace Http.Traffic

variable {timeout : Nat} {t : Traffic}

/-- No request is behind the gate, and whatever happens none will be. -/
def Drained (timeout : Nat) (t : Traffic) : Prop :=
  ∀ events, ∀ c ∈ (t.run timeout events).parties, c.place.isInside = false

/-! ### Whoever waits has closed the gate -/

theorem closed_of_waiting_step (closed : t.shared.wait ≠ .notBegun → t.shared.gate.draining = true)
    (event : Event) (waiting : (t.step timeout event).shared.wait ≠ .notBegun) :
    (t.step timeout event).shared.gate.draining = true := by
  rcases step_cases timeout t event with same | ⟨before, c, after, f', c', split, passes, -, moved⟩ |
    ⟨-, drained⟩ | ⟨elapsed, emptied, -, polling, -, ended⟩
  · rw [same] at waiting ⊢
    exact closed waiting
  · rw [moved] at waiting ⊢
    exact passes.draining.trans (closed (passes.wait ▸ waiting))
  · rw [drained]
    rfl
  · rw [ended]
    exact closed (by rw [polling]; nofun)

theorem closed_of_waiting (closed : t.shared.wait ≠ .notBegun → t.shared.gate.draining = true)
    (events : List Event) (waiting : (t.run timeout events).shared.wait ≠ .notBegun) :
    (t.run timeout events).shared.gate.draining = true := by
  induction events generalizing t with
  | nil => exact closed waiting
  | cons event events ih => exact ih (closed_of_waiting_step closed event) waiting

/-! ### A gate that nobody can pass any more -/

/-- The gate is closed, and nobody is behind it or about to enter. -/
structure Shut (t : Traffic) : Prop where
  closed : t.shared.gate.draining = true
  outside : ∀ c ∈ t.parties, c.place.visit ≠ .admitted ∧ c.place.visit ≠ .inside

/-- At a closed gate a visitor outside stays outside. -/
theorem advance_outside {g : Gate} {v : Gate.Visit} (closed : g.draining = true)
    (outside : v ≠ .admitted ∧ v ≠ .inside) :
    (g.advance v).2 ≠ .admitted ∧ (g.advance v).2 ≠ .inside := by
  cases v with
  | arriving => simp [Gate.advance, closed]
  | admitted => exact absurd rfl outside.1
  | inside => exact absurd rfl outside.2
  | left => exact outside
  | turnedAway => exact outside

theorem Shut.step (shut : t.Shut) (event : Event) : (t.step timeout event).Shut := by
  have closed := (draining_step timeout t event).mpr (.inl shut.closed)
  refine ⟨closed, ?_⟩
  rcases step_cases timeout t event with same | ⟨before, c, after, f', c', split, passes, -, moved⟩ |
    ⟨-, drained⟩ | ⟨elapsed, emptied, -, -, -, ended⟩
  · rw [same]
    exact shut.outside
  · have outside := shut.outside
    rw [split] at outside
    rw [moved]
    intro other mem
    rcases Crowd.mem_replaced mem with rfl | there
    · have before := outside c (by simp)
      rcases passes.gate with step | stays
      · rw [show other.place.visit = _ from congrArg Prod.snd step]
        exact advance_outside shut.closed before
      · rw [show other.place.visit = _ from congrArg Prod.snd stays]
        exact before
    · exact outside other there
  · rw [drained]
    exact shut.outside
  · rw [ended]
    exact shut.outside

theorem Shut.drained (shut : t.Shut) : t.Drained timeout := by
  intro events
  induction events generalizing t with
  | nil =>
    intro c mem
    simpa [Place.isInside] using (shut.outside c mem).2
  | cons event events ih => exact ih (shut.step event)

/-! ### The end of the wait -/

/-- A request that is admitted can always get in. -/
theorem not_drained {c : Caller} (mem : c ∈ t.parties) (admitted : c.place = .admitted) :
    ¬t.Drained timeout := by
  intro drained
  obtain ⟨i, inside, rfl⟩ := List.mem_iff_getElem.mp mem
  have entered := Crowd.getElem?_move_self (c := t) (Front.advance ⟨0⟩ .zero)
    (List.getElem?_eq_getElem inside)
  rw [Front.advance, admitted] at entered
  have outside := drained [.caller i ⟨0⟩ .zero] _ (List.mem_of_getElem? entered)
  cases outside

theorem empty_of_ended {elapsed : Nat} (polling : t.shared.wait = .polling)
    (ended : (t.step timeout (.poll elapsed)).shared.wait = .ended true) :
    t.shared.gate.inFlight = 0 := by
  simp only [step, Front.poll, polling] at ended
  cases decided : Gate.verdict timeout elapsed t.shared.gate.inFlight with
  | none =>
    rw [decided, polling] at ended
    cases ended
  | some emptied =>
    rw [decided] at ended
    cases ended
    exact Gate.verdict_eq_true.mp decided

/-- When the wait ends with an empty gate, the drain is complete exactly if no request stands between
its look at the open gate and its being counted. -/
theorem drained_iff (timeout : Nat) (engine : Engine) (requests : List Request)
    (before : List Event) (elapsed : Nat) :
    let t := (start engine requests).run timeout before
    let u := t.step timeout (.poll elapsed)
    t.shared.wait = .polling → u.shared.wait = .ended true →
      (u.Drained timeout ↔ ∀ c ∈ t.parties, c.place ≠ .admitted) := by
  intro t u polling ended
  constructor
  · intro drained c mem admitted
    exact not_drained (t := u) mem admitted drained
  · intro none_admitted
    have empty : t.shared.gate.inFlight = 0 := empty_of_ended polling ended
    have counted : t.shared.gate.inFlight = t.visits.count .inside :=
      counted_run timeout engine requests before
    have nobody : Gate.Visit.inside ∉ t.visits := List.count_eq_zero.mp (counted.symm.trans empty)
    have closed : t.shared.gate.draining = true :=
      closed_of_waiting (fun waiting => absurd rfl waiting) before
        (show t.shared.wait ≠ .notBegun by rw [polling]; nofun)
    have shut : t.Shut := ⟨closed, fun c mem =>
      ⟨fun admitted => none_admitted c mem (Place.visit_eq_admitted.mp admitted),
        fun inside => nobody (inside ▸ List.mem_map_of_mem mem)⟩⟩
    exact (shut.step _).drained

/-- An engine without routes. -/
def bareEngine : Engine := .ofTable {} {} (.ofConfig {} {} 0) 0

def pageRequest : Request := { method := "GET", uri := "/page" }

/-- A request looks at the open gate, the gate is closed, and the wait reads an empty gate. -/
def drainBehindLook : List Event := [.caller 0 ⟨0⟩ .zero, .startDrain, .poll 0]

/-- The wait has ended with an empty gate, and then a request is let in and counted by the engine. -/
theorem drain_misses_admitted :
    let t := (start bareEngine [pageRequest]).run 0 drainBehindLook
    let u := t.run 0 (List.replicate 3 (.caller 0 ⟨0⟩ .zero))
    t.shared.wait = .ended true ∧ ¬t.Drained 0 ∧
      u.shared.gate.inFlight = 1 ∧ u.shared.engine.stats.totalRequests = 1 := by
  refine ⟨rfl, not_drained List.mem_cons_self rfl, rfl, ?_⟩
  decide +kernel

end Http.Traffic

end MockApi
