import MockApi.Crowd
import MockApi.Http

/-!
# Traffic

The requests at a router, each of them step by step, and those who close its gate and wait for it to
empty. A request looks at the gate and is counted in two steps; behind the gate it is routed, goes
through the stages of the engine, and is no longer counted when its answer is known. Where it breaks off
behind the gate it is no longer counted either, and has no answer.
-/

namespace MockApi.Http

/-- What a request does behind the gate. -/
inductive Work
  | entering
  | handling (request : MockApi.Request) (stage : Stage)
  | answered (reply : Reply)

/-- Where a request stands at the gate. -/
inductive Place
  | arriving
  /-- It found the gate open, and is not counted yet. -/
  | admitted
  | inside (work : Work)
  | left (reply : Reply)
  | brokenOff
  | turnedAway (reply : Reply)

namespace Place

def visit : Place → Gate.Visit
  | arriving => .arriving
  | admitted => .admitted
  | inside _ => .inside
  | left _ | brokenOff => .left
  | turnedAway _ => .turnedAway

def isInside (p : Place) : Bool := p.visit == .inside

end Place

structure Caller where
  request : Request
  place : Place := .arriving

/-- How far the wait for an empty gate has come. -/
inductive Wait
  | notBegun
  | polling
  | ended (emptied : Bool)
deriving DecidableEq

/-- What the requests at a router share with those who close its gate. -/
structure Front where
  engine : Engine
  gate : Gate := {}
  wait : Wait := .notBegun

abbrev Traffic := Crowd Front Caller

/-! ### One step of a request -/

def Work.advance (e : Engine) (now : Instant) (uptime : Binary64) (r : Request) :
    Work → Engine × Work
  | entering =>
    if pathOf r.uri = healthPath then (e, answered (healthAnswer now uptime r))
    else match toRequest r with
      | .error error => (e, answered (render (.ofError error) (isBranded e)))
      | .ok request => (e, handling request .arrived)
  | handling _ (.finished response _) => (e, answered (render response (isBranded e)))
  | handling request stage =>
    let next := e.advance now request stage
    (next.1, handling request next.2)
  | answered reply => (e, answered reply)

namespace Front

def advance (now : Instant) (uptime : Binary64) (f : Front) (c : Caller) : Front × Caller :=
  match c.place with
  | .arriving =>
    (f, { c with place := if f.gate.draining then .turnedAway drainReply else .admitted })
  | .admitted => ({ f with gate := f.gate.track }, { c with place := .inside .entering })
  | .inside (.answered reply) =>
    ({ f with gate := f.gate.release }, { c with place := .left reply })
  | .inside work =>
    let next := work.advance f.engine now uptime c.request
    ({ f with engine := next.1 }, { c with place := .inside next.2 })
  | _ => (f, c)

/-- A request breaks off, which only one behind the gate does. -/
def breakOff (f : Front) (c : Caller) : Front × Caller :=
  match c.place with
  | .inside _ => ({ f with gate := f.gate.release }, { c with place := .brokenOff })
  | _ => (f, c)

/-! ### Closing the gate -/

def startDrain (f : Front) : Front :=
  { f with
    gate := f.gate.startDrain
    wait := match f.wait with
      | .notBegun => .polling
      | wait => wait }

/-- The number of requests inside is read, some time after the wait began. -/
def poll (timeoutMillis elapsed : Nat) (f : Front) : Front :=
  match f.wait with
  | .polling => match Gate.verdict timeoutMillis elapsed f.gate.inFlight with
    | some emptied => { f with wait := .ended emptied }
    | none => f
  | _ => f

end Front

/-! ### All of them -/

namespace Traffic

/-- What may happen next. -/
inductive Event
  | caller (i : Nat) (now : Instant) (uptime : Binary64)
  | breakOff (i : Nat)
  | startDrain
  | poll (elapsed : Nat)

def start (engine : Engine) (requests : List Request) : Traffic :=
  ⟨{ engine }, requests.map fun request => { request }⟩

def step (timeoutMillis : Nat) (t : Traffic) : Event → Traffic
  | .caller i now uptime => t.move i (Front.advance now uptime)
  | .breakOff i => t.move i Front.breakOff
  | .startDrain => { t with shared := t.shared.startDrain }
  | .poll elapsed => { t with shared := t.shared.poll timeoutMillis elapsed }

def run (timeoutMillis : Nat) (t : Traffic) (events : List Event) : Traffic :=
  events.foldl (step timeoutMillis) t

end Traffic

end MockApi.Http
