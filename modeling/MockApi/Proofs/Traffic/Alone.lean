import MockApi.Proofs.Engine.Stages
import MockApi.Proofs.Traffic.Counting

/-!
# A request alone

A request that nothing comes between is answered as the router answers it at once, and leaves the gate
as it found it (`run_alone`).
-/

namespace MockApi

namespace Engine

theorem run_finished (e : Engine) (now : Instant) (request : Request) (fuel : Nat)
    (response : Response) (delay : Nat) :
    e.run now request fuel (.finished response delay) = (e, .finished response delay) := by
  induction fuel with
  | zero => rfl
  | succ fuel ih => exact ih

end Engine

namespace Http

/-- What the router makes of an answer that comes from behind its gate, or from the gate. -/
def outward (r : Request) (reply : Reply) : Reply :=
  if pathOf r.uri = healthPath then healthRoute r.method reply else reply

theorem routed_of_draining {g : Gate} (closed : g.draining = true) (e : Engine) (now : Instant)
    (uptime : Binary64) (r : Request) : routed e g now uptime r = (e, outward r drainReply) := by
  simp only [routed, outward, closed, if_true]
  split <;> rfl

theorem routed_of_open {g : Gate} (opened : g.draining = false) (e : Engine) (now : Instant)
    (uptime : Binary64) (r : Request) :
    routed e g now uptime r =
      if pathOf r.uri = healthPath then (e, healthRoute r.method (healthAnswer now uptime r))
      else dispatch e now r := by
  simp only [routed, opened, Bool.false_eq_true, if_false]

namespace Front

theorem advance_arriving (f : Front) (now : Instant) (uptime : Binary64) (r : Request) :
    f.advance now uptime ⟨r, .arriving⟩ =
      (f, ⟨r, if f.gate.draining then .turnedAway drainReply else .admitted⟩) :=
  rfl

theorem advance_admitted (f : Front) (now : Instant) (uptime : Binary64) (r : Request) :
    f.advance now uptime ⟨r, .admitted⟩ = ({ f with gate := f.gate.track }, ⟨r, .inside .entering⟩) :=
  rfl

theorem advance_entering (f : Front) (now : Instant) (uptime : Binary64) (r : Request) :
    f.advance now uptime ⟨r, .inside .entering⟩ =
      ({ f with engine := (Work.entering.advance f.engine now uptime r).1 },
        ⟨r, .inside (Work.entering.advance f.engine now uptime r).2⟩) :=
  rfl

/-- A stage that is not the last is one move. -/
theorem advance_handling {stage : Stage} (unfinished : stage.distance ≠ 0) (f : Front)
    (now : Instant) (uptime : Binary64) (r : Request) (request : MockApi.Request) :
    f.advance now uptime ⟨r, .inside (.handling request stage)⟩ =
      ({ f with engine := (f.engine.advance now request stage).1 },
        ⟨r, .inside (.handling request (f.engine.advance now request stage).2)⟩) := by
  have step : (Work.handling request stage).advance f.engine now uptime r =
      ((f.engine.advance now request stage).1,
        .handling request (f.engine.advance now request stage).2) := by
    cases stage with
    | finished response delay => exact absurd rfl unfinished
    | _ => simp only [Work.advance]
  simp only [advance, step]

end Front

namespace Traffic

variable {timeout : Nat} {now : Instant} {uptime : Binary64} {r : Request} {g : Gate} {w : Wait}

/-- The request moves so many times. -/
def moves (now : Instant) (uptime : Binary64) (count : Nat) : List Event :=
  List.replicate count (.caller 0 now uptime)

/-- Traffic of one request. -/
def solo (f : Front) (c : Caller) : Traffic := ⟨f, [c]⟩

theorem run_moves_succ (f : Front) (c : Caller) (count : Nat) :
    (solo f c).run timeout (moves now uptime (count + 1)) =
      (solo (f.advance now uptime c).1 (f.advance now uptime c).2).run timeout
        (moves now uptime count) :=
  rfl

theorem run_moves_settled {f : Front} {c : Caller} (settled : Front.Settled c.place) (count : Nat) :
    (solo f c).run timeout (moves now uptime count) = solo f c := by
  induction count with
  | zero => rfl
  | succ count ih => rwa [run_moves_succ, Front.advance_settled now uptime f settled]

theorem run_moves_answered (e : Engine) (reply : Reply) (count : Nat) :
    (solo ⟨e, g.track, w⟩ ⟨r, .inside (.answered reply)⟩).run timeout
      (moves now uptime (count + 1)) = solo ⟨e, g, w⟩ ⟨r, .left reply⟩ :=
  run_moves_settled (c := ⟨r, .left reply⟩) trivial count

/-- A request in the engine has its answer two moves after its last stage. The induction is on the
moves; one that ends early waits for the others. -/
theorem run_moves_handling {e e' : Engine} {request : MockApi.Request} {stage : Stage}
    {response : Response} {delay fuel : Nat}
    (finishes : e.run now request fuel stage = (e', .finished response delay)) :
    (solo ⟨e, g.track, w⟩ ⟨r, .inside (.handling request stage)⟩).run timeout
        (moves now uptime (fuel + 2)) =
      solo ⟨e', g, w⟩ ⟨r, .left (render response (isBranded e))⟩ := by
  induction fuel generalizing e stage with
  | zero =>
    cases finishes
    exact run_moves_answered _ _ 0
  | succ fuel ih =>
    by_cases ended : stage.distance = 0
    · obtain ⟨response, delay, rfl⟩ := Engine.eq_finished ended
      rw [Engine.run_finished] at finishes
      cases finishes
      exact run_moves_answered _ _ (fuel + 1)
    · have same : isBranded (e.advance now request stage).1 = isBranded e := by
        rw [isBranded, (Engine.passage_advance e now request stage).sameSetup.config, isBranded]
      have finishes : (e.advance now request stage).1.run now request fuel
          (e.advance now request stage).2 = (e', .finished response delay) := finishes
      have rest := ih finishes
      rw [same] at rest
      rw [run_moves_succ, Front.advance_handling ended, rest]

/-- The moves that take any request to its answer. -/
def soloMoves : Nat := Engine.stageLimit + 3 + 1 + 1

theorem run_moves_inside (e : Engine) (opened : g.draining = false) :
    ∃ reply, outward r reply = (routed e g now uptime r).2 ∧
      (solo ⟨e, g.track, w⟩ ⟨r, .inside .entering⟩).run timeout
          (moves now uptime (Engine.stageLimit + 3)) =
        solo ⟨(routed e g now uptime r).1, g, w⟩ ⟨r, .left reply⟩ := by
  rw [routed_of_open opened, run_moves_succ, Front.advance_entering]
  by_cases health : pathOf r.uri = healthPath
  · simp only [Work.advance, outward, if_pos health]
    exact ⟨_, rfl, run_moves_answered e _ (Engine.stageLimit + 1)⟩
  · simp only [Work.advance, outward, dispatch, if_neg health]
    cases toRequest r with
    | error error => exact ⟨_, rfl, run_moves_answered e _ (Engine.stageLimit + 1)⟩
    | ok request => exact ⟨_, rfl, run_moves_handling (Engine.run_stageLimit e now request)⟩

/-- A request that finds the gate open passes it and is answered as the router answers it; one that finds
it closed is turned away. -/
theorem run_alone (timeout : Nat) (e : Engine) (g : Gate) (w : Wait) (now : Instant)
    (uptime : Binary64) (r : Request) :
    ∃ reply, outward r reply = (routed e g now uptime r).2 ∧
      (solo ⟨e, g, w⟩ ⟨r, .arriving⟩).run timeout (moves now uptime soloMoves) =
        solo ⟨(routed e g now uptime r).1, g, w⟩
          ⟨r, if g.draining then .turnedAway reply else .left reply⟩ := by
  rw [soloMoves, run_moves_succ, Front.advance_arriving]
  cases closed : g.draining with
  | true =>
    rw [routed_of_draining closed]
    exact ⟨drainReply, rfl, run_moves_settled (c := ⟨r, .turnedAway drainReply⟩) trivial _⟩
  | false =>
    simp only [Bool.false_eq_true, if_false]
    rw [run_moves_succ, Front.advance_admitted]
    exact run_moves_inside e closed

end Traffic

end Http

end MockApi
