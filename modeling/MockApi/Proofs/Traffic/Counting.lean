import MockApi.Http.Traffic

/-!
# Counting at the gate

Whatever requests do and in whatever order, the gate counts exactly those behind it, and a gate that was
closed turns away whoever looks at it from then on (`inFlight_accounting`).
-/

namespace MockApi

namespace Gate

/-- One step of one visitor keeps the count. -/
theorem inFlight_advance {g : Gate} {before after : List Visit} {v : Visit}
    (counted : g.inFlight = (before ++ v :: after).count .inside) :
    (g.advance v).1.inFlight = (before ++ (g.advance v).2 :: after).count .inside := by
  rw [List.count_append, List.count_cons] at counted ⊢
  cases v with
  | arriving => cases g with | mk inFlight draining => cases draining <;> exact counted
  | admitted => simp only [advance, track, counted]; simp; omega
  | inside => simp only [advance, release, counted]; simp
  | left => exact counted
  | turnedAway => exact counted

theorem draining_advance (g : Gate) (v : Visit) : (g.advance v).1.draining = g.draining := by
  cases v <;> rfl

end Gate

namespace Http

theorem Place.visit_eq_admitted {p : Place} : p.visit = .admitted ↔ p = .admitted := by
  cases p <;> simp [visit]

/-! ### What a step of one request is at the gate -/

/-- At the gate a request takes one step of its visit, or it moves behind the gate, which does not
notice. -/
structure Front.Passes (f : Front) (c : Caller) (f' : Front) (c' : Caller) : Prop where
  gate : (f'.gate, c'.place.visit) = f.gate.advance c.place.visit ∨
    (f'.gate, c'.place.visit) = (f.gate, c.place.visit)
  wait : f'.wait = f.wait

namespace Front

variable {f f' : Front} {c c' : Caller}

theorem passes_advance (now : Instant) (uptime : Binary64) (f : Front) (c : Caller) :
    Passes f c (f.advance now uptime c).1 (f.advance now uptime c).2 := by
  obtain ⟨request, place⟩ := c
  cases place with
  | arriving =>
    refine ⟨.inl ?_, rfl⟩
    cases closed : f.gate.draining <;> simp [advance, Gate.advance, Place.visit, closed]
  | admitted => exact ⟨.inl rfl, rfl⟩
  | inside work =>
    cases work with
    | answered reply => exact ⟨.inl rfl, rfl⟩
    | entering => exact ⟨.inr rfl, rfl⟩
    | handling request stage => exact ⟨.inr rfl, rfl⟩
  | left reply => exact ⟨.inr rfl, rfl⟩
  | brokenOff => exact ⟨.inr rfl, rfl⟩
  | turnedAway reply => exact ⟨.inr rfl, rfl⟩

theorem passes_breakOff (f : Front) (c : Caller) :
    Passes f c (f.breakOff c).1 (f.breakOff c).2 := by
  obtain ⟨request, place⟩ := c
  cases place with
  | inside work => exact ⟨.inl rfl, rfl⟩
  | _ => exact ⟨.inr rfl, rfl⟩

theorem Passes.draining (passes : Passes f c f' c') : f'.gate.draining = f.gate.draining := by
  rcases passes.gate with step | same
  · rw [show f'.gate = _ from congrArg Prod.fst step, Gate.draining_advance]
  · rw [show f'.gate = _ from congrArg Prod.fst same]

/-- A request that has its answer, or has broken off, does not move again. -/
def Settled : Place → Prop
  | .left _ | .brokenOff | .turnedAway _ => True
  | _ => False

theorem advance_settled (now : Instant) (uptime : Binary64) (f : Front) (settled : Settled c.place) :
    f.advance now uptime c = (f, c) := by
  obtain ⟨request, place⟩ := c
  cases place with
  | left | brokenOff | turnedAway => rfl
  | arriving | admitted | inside => exact settled.elim

theorem breakOff_settled (f : Front) (settled : Settled c.place) : f.breakOff c = (f, c) := by
  obtain ⟨request, place⟩ := c
  cases place with
  | left | brokenOff | turnedAway => rfl
  | arriving | admitted | inside => exact settled.elim

end Front

namespace Traffic

variable {timeout : Nat} {t : Traffic} {event : Event}

/-- All that an event can do: nothing, one step of one request, closing the gate, or one reading by
those who wait. -/
theorem step_cases (timeout : Nat) (t : Traffic) (event : Event) :
    t.step timeout event = t ∨
    (∃ before c after f' c', t.parties = before ++ c :: after ∧ t.shared.Passes c f' c' ∧
      event ≠ .startDrain ∧ t.step timeout event = ⟨f', before ++ c' :: after⟩) ∨
    (event = .startDrain ∧ t.step timeout event = { t with shared := t.shared.startDrain }) ∨
    (∃ elapsed emptied, event = .poll elapsed ∧ t.shared.wait = .polling ∧
      Gate.verdict timeout elapsed t.shared.gate.inFlight = some emptied ∧
      t.step timeout event = { t with shared := { t.shared with wait := .ended emptied } }) := by
  cases event with
  | caller i now uptime =>
    rcases t.move_cases i (Front.advance now uptime) with same | ⟨before, c, after, split, moved⟩
    · exact .inl same
    · exact .inr (.inl ⟨before, c, after, _, _, split, Front.passes_advance now uptime _ c,
        nofun, moved⟩)
  | breakOff i =>
    rcases t.move_cases i Front.breakOff with same | ⟨before, c, after, split, moved⟩
    · exact .inl same
    · exact .inr (.inl ⟨before, c, after, _, _, split, Front.passes_breakOff _ c, nofun, moved⟩)
  | startDrain => exact .inr (.inr (.inl ⟨rfl, rfl⟩))
  | poll elapsed =>
    cases waiting : t.shared.wait with
    | notBegun | ended => exact .inl (by simp [step, Front.poll, waiting])
    | polling =>
      cases decided : Gate.verdict timeout elapsed t.shared.gate.inFlight with
      | none => exact .inl (by simp [step, Front.poll, waiting, decided])
      | some emptied =>
        exact .inr (.inr (.inr ⟨elapsed, emptied, rfl, rfl, decided,
          by simp [step, Front.poll, waiting, decided]⟩))

/-! ### The count -/

def visits (t : Traffic) : List Gate.Visit := t.parties.map (·.place.visit)

/-- The gate counts those behind it. -/
def Counted (t : Traffic) : Prop := t.shared.gate.inFlight = t.visits.count .inside

theorem counted_start (engine : Engine) (requests : List Request) :
    Counted (start engine requests) := by
  have arriving : (start engine requests).visits = requests.map fun _ => .arriving := by
    rw [visits, start, List.map_map]
    rfl
  rw [Counted, arriving]
  exact (List.count_eq_zero.mpr (by simp)).symm

theorem Counted.step (counted : t.Counted) (event : Event) : (t.step timeout event).Counted := by
  rcases step_cases timeout t event with same | ⟨before, c, after, f', c', split, passes, -, moved⟩ |
    ⟨-, closed⟩ | ⟨elapsed, emptied, -, -, -, ended⟩
  · rwa [same]
  · rw [Counted, visits, split, List.map_append, List.map_cons] at counted
    rw [moved, Counted, visits, List.map_append, List.map_cons]
    rcases passes.gate with step | same
    · obtain ⟨gate, visit⟩ := Prod.mk.inj step
      rw [gate, visit]
      exact Gate.inFlight_advance counted
    · obtain ⟨gate, visit⟩ := Prod.mk.inj same
      rw [gate, visit]
      exact counted
  · rw [closed]
    exact counted
  · rw [ended]
    exact counted

theorem Counted.run (counted : t.Counted) (events : List Event) :
    (t.run timeout events).Counted := by
  induction events generalizing t with
  | nil => exact counted
  | cons event events ih => exact ih (counted.step event)

theorem counted_run (timeout : Nat) (engine : Engine) (requests : List Request)
    (events : List Event) : ((start engine requests).run timeout events).Counted :=
  (counted_start engine requests).run events

/-! ### The closed gate -/

theorem draining_step (timeout : Nat) (t : Traffic) (event : Event) :
    (t.step timeout event).shared.gate.draining = true ↔
      t.shared.gate.draining = true ∨ event = .startDrain := by
  rcases step_cases timeout t event with same | ⟨before, c, after, f', c', split, passes, other, moved⟩ |
    ⟨rfl, closed⟩ | ⟨elapsed, emptied, rfl, -, -, ended⟩
  · by_cases closes : event = .startDrain
    · subst closes
      simp [Traffic.step, Front.startDrain, Gate.startDrain]
    · rw [same, or_iff_left closes]
  · rw [moved, or_iff_left other, passes.draining]
  · rw [closed]
    simp [Front.startDrain, Gate.startDrain]
  · rw [ended]
    simp

/-- The gate is closed once it is being drained, and nothing opens it again. -/
theorem draining_run (t : Traffic) (events : List Event) :
    (t.run timeout events).shared.gate.draining = true ↔
      t.shared.gate.draining = true ∨ Event.startDrain ∈ events := by
  induction events generalizing t with
  | nil => simp [run]
  | cons event events ih =>
    rw [run, List.foldl_cons, ← run, ih, draining_step, List.mem_cons, or_assoc, eq_comm (a := event)]

/-! ### Those who were turned away -/

/-- Who looks at a closed gate is turned away, and nothing else happens. -/
theorem step_closed (timeout : Nat) {i : Nat} {request : Request} (closed : t.shared.gate.draining = true)
    (present : t.parties[i]? = some ⟨request, .arriving⟩) (now : Instant) (uptime : Binary64) :
    (t.step timeout (.caller i now uptime)).shared = t.shared ∧
      (t.step timeout (.caller i now uptime)).parties[i]? =
        some ⟨request, .turnedAway drainReply⟩ := by
  have turned : t.shared.advance now uptime ⟨request, .arriving⟩ =
      (t.shared, ⟨request, .turnedAway drainReply⟩) := by
    simp only [Front.advance, closed, if_true]
  constructor
  · rw [step, Crowd.move_of_some present, turned]
  · rw [step, Crowd.getElem?_move_self _ present, turned]

theorem step_settled {i : Nat} {c : Caller} (present : t.parties[i]? = some c)
    (settled : Front.Settled c.place) (event : Event) :
    (t.step timeout event).parties[i]? = some c := by
  cases event with
  | caller j now uptime =>
    by_cases same : j = i
    · subst same
      rwa [step, Crowd.move_eq_self present (Front.advance_settled now uptime t.shared settled)]
    · rwa [step, Crowd.getElem?_move_of_ne t _ same]
  | breakOff j =>
    by_cases same : j = i
    · subst same
      rwa [step, Crowd.move_eq_self present (Front.breakOff_settled t.shared settled)]
    · rwa [step, Crowd.getElem?_move_of_ne t _ same]
  | startDrain => exact present
  | poll elapsed => exact present

theorem run_settled (timeout : Nat) {i : Nat} {c : Caller} (present : t.parties[i]? = some c)
    (settled : Front.Settled c.place) (events : List Event) :
    (t.run timeout events).parties[i]? = some c := by
  induction events generalizing t with
  | nil => exact present
  | cons event events ih => exact ih (step_settled present settled event)

theorem length_step (t : Traffic) (event : Event) :
    (t.step timeout event).parties.length = t.parties.length := by
  rcases step_cases timeout t event with same | ⟨before, c, after, f', c', split, -, -, moved⟩ |
    ⟨-, closed⟩ | ⟨elapsed, emptied, -, -, -, ended⟩
  · rw [same]
  · rw [moved, split, List.length_append, List.length_append, List.length_cons, List.length_cons]
  · rw [closed]
  · rw [ended]

theorem length_run (t : Traffic) (events : List Event) :
    (t.run timeout events).parties.length = t.parties.length := by
  induction events generalizing t with
  | nil => rfl
  | cons event events ih => exact (ih _).trans (length_step t event)

theorem Counted.countP (counted : t.Counted) :
    t.shared.gate.inFlight = t.parties.countP (·.place.isInside) := by
  rw [counted, visits, List.count, List.countP_map]
  rfl

/-- After any requests and any events the gate counts those that were counted in and have not finished
or broken off, is closed exactly if it was ever being drained, and turns away whoever looks at it from
then on: such a request has its answer for good and touches neither the gate nor the engine. -/
theorem inFlight_accounting (timeout : Nat) (engine : Engine) (requests : List Request)
    (before : List Event) :
    let t := (start engine requests).run timeout before
    (t.shared.gate.inFlight = t.parties.countP (·.place.isInside) ∧
      t.shared.gate.inFlight ≤ requests.length) ∧
    (∀ c ∈ t.parties, c.place.isInside = true → 0 < t.shared.gate.inFlight) ∧
    ((∀ c ∈ t.parties, c.place.isInside = false) → t.shared.gate.inFlight = 0) ∧
    (t.shared.gate.draining = true ↔ Event.startDrain ∈ before) ∧
    (t.shared.gate.draining = true →
      ∀ after, (t.run timeout after).shared.gate.draining = true) ∧
    (Event.startDrain ∈ before → ∀ i request now uptime,
      t.parties[i]? = some ⟨request, .arriving⟩ →
      let u := t.step timeout (.caller i now uptime)
      u.shared = t.shared ∧ ∀ after,
        (u.run timeout after).parties[i]? = some ⟨request, .turnedAway drainReply⟩ ∧
        ∀ now uptime, (u.run timeout after).step timeout (.caller i now uptime) =
          u.run timeout after) ∧
    drainReply.status = 503 ∧
    drainReply.content = .json (.ofMembers [("success", .bool false),
      ("error", .string "ServiceUnavailable"),
      ("message", .string "Server is shutting down. Please retry your request.")]) := by
  intro t
  have counted : t.shared.gate.inFlight = t.parties.countP (·.place.isInside) :=
    (counted_run timeout engine requests before).countP
  have closed : t.shared.gate.draining = true ↔ Event.startDrain ∈ before := by
    rw [draining_run]
    simp [start]
  refine ⟨⟨counted, ?_⟩, ?_, ?_, closed, ?_, ?_, rfl, rfl⟩
  · have many : t.parties.length = requests.length := by
      rw [length_run, start, List.length_map]
    rw [counted, ← many]
    exact List.countP_le_length
  · intro c mem inside
    rw [counted]
    exact List.countP_pos_iff.mpr ⟨c, mem, inside⟩
  · intro outside
    rw [counted]
    exact List.countP_eq_zero.mpr fun c mem => by simp [outside c mem]
  · intro draining after
    exact (draining_run t after).mpr (.inl draining)
  · intro drained i request now uptime present u
    obtain ⟨shared, turned⟩ :=
      step_closed timeout (closed.mpr drained) present now uptime
    refine ⟨shared, fun after => ?_⟩
    have settled := run_settled timeout turned trivial after
    exact ⟨settled, fun now uptime =>
      Crowd.move_eq_self settled (Front.advance_settled now uptime _ trivial)⟩

end Traffic

end Http

end MockApi
