import MockApi.Engine.Client
import MockApi.Session

/-!
# Service

The clients of a session. Their requests go through the stages of its engine, one step of one client at a
time, and in between the session is given other definitions; what was matched before is answered by the
route that it was matched with.
-/

namespace MockApi

namespace Session

def serve (now : Instant) (s : Session) (c : Client) : Session × Client :=
  let next := s.engine.serve now c
  ({ s with engine := next.1 }, next.2)

end Session

abbrev Service := Crowd Session Client

namespace Service

/-- What may happen next. -/
inductive Event
  | serve (i : Nat) (now : Instant)
  | reload (now : Instant) (definition : Definition)

def start (s : Session) (requests : List Request) : Service :=
  ⟨s, requests.map fun request => { request }⟩

def step (t : Service) : Event → Service
  | .serve i now => t.move i (Session.serve now)
  | .reload now definition => { t with shared := (t.shared.reload now definition).1 }

def run (t : Service) (events : List Event) : Service := events.foldl step t

def store (t : Service) : Store := t.shared.engine.backend.store

end Service

end MockApi
