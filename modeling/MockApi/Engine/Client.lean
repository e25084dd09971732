import MockApi.Crowd
import MockApi.Engine

/-!
# Clients

Any number of clients at one engine, each with a request that goes through the stages of the engine. One
client moves at a time, and one that breaks off moves no more. For the account a client keeps the route
that its request was matched with and what became of the request; no stage looks at these.
-/

namespace MockApi

namespace Stage

def match? : Stage → Option RouteMatch
  | delaying m | risking m _ | checking m _ | answering m _ | making m _ _ => some m
  | _ => none

def outcome? : Stage → Option Outcome
  | settled outcome _ => some outcome
  | _ => none

def response? : Stage → Option Response
  | finished response _ => some response
  | _ => none

end Stage

structure Client where
  request : Request
  stage : Stage := .arrived
  /-- The route that the request was matched with. -/
  matched : Option RouteMatch := none
  /-- What became of the request, from when it is known. -/
  outcome : Option Outcome := none

namespace Client

def goTo (c : Client) (stage : Stage) : Client :=
  { c with stage, matched := stage.match?.or c.matched, outcome := stage.outcome?.or c.outcome }

/-- Whether the request was counted on its arrival. -/
def hasBegun (c : Client) : Bool :=
  match c.stage with
  | .arrived => false
  | _ => true

def response? (c : Client) : Option Response := c.stage.response?

def hasEnded (c : Client) : Bool := c.response?.isSome

def isInProgress (c : Client) : Bool := c.hasBegun && !c.hasEnded

end Client

namespace Engine

/-- The next stage of a client. -/
def serve (now : Instant) (e : Engine) (c : Client) : Engine × Client :=
  let next := e.advance now c.request c.stage
  (next.1, c.goTo next.2)

/-- A client is answered by a function that the surrounding program has set for its route. What the
function answers, and what it did to the backend, is up to it; that it broke off is an error, too. -/
def serveWith (backend : Backend) (result : Except Error Json) (e : Engine) (c : Client) :
    Engine × Client :=
  match c.stage with
  | .answering m delay => ({ e with backend }, c.goTo (afterMaking m delay (.made result)))
  | _ => (e, c)

end Engine

abbrev Clients := Crowd Engine Client

namespace Clients

/-- What may happen next. -/
inductive Event
  | serve (i : Nat) (now : Instant)
  | serveWith (i : Nat) (backend : Backend) (result : Except Error Json)
  /-- Other routes are installed. -/
  | install (table : RouteTable)
  /-- Others use the compiler, the store, or what a scenario draws from. -/
  | disturb (backend : Backend) (injector : Injector)

def start (e : Engine) (requests : List Request) : Clients :=
  ⟨e, requests.map fun request => { request }⟩

def step (t : Clients) : Event → Clients
  | .serve i now => t.move i (Engine.serve now)
  | .serveWith i backend result => t.move i (Engine.serveWith backend result)
  | .install table => { t with shared := { t.shared with table } }
  | .disturb backend injector => { t with shared := { t.shared with backend, injector } }

def run (t : Clients) (events : List Event) : Clients := events.foldl step t

end Clients

end MockApi
