import MockApi.Engine.Backend
import MockApi.Engine.Injector
import MockApi.Stats
import MockApi.Validation

/-!
# Engine

A request goes through stages: it is counted, matched with a route, perhaps delayed or failed by the
scenario, perhaps rejected in strict mode, and answered by its route. `Engine.advance` takes one stage
further, with at most one change to what requests share; the stages of several requests may so be
interleaved. `Engine.handle` takes one request through all of them.
-/

namespace MockApi

structure Response where
  status : Nat
  headers : Table String := []
  body : Json

namespace Response

def ofError (e : Error) : Response := { status := e.status, body := e.envelope }

def isSuccess (r : Response) : Bool := decide (200 ≤ r.status) && decide (r.status < 300)

end Response

/-- What the requests of a session share. -/
structure Engine where
  config : Config
  table : RouteTable
  backend : Backend
  injector : Injector
  stats : Stats := {}

inductive Outcome
  | notFound (method : Method) (path : String)
  | injected (e : Error)
  | rejected (failure : Validation.Failure)
  | failed (e : Error)
  | served (response : Response)

namespace Outcome

def response : Outcome → Response
  | notFound method path => .ofError (.routeNotFound method.name path)
  | injected e | failed e => .ofError e
  | rejected failure => .ofError (.validation failure)
  | served response => response

def record : Outcome → Stats → Stats
  | notFound .., s => s.recordNotFound
  | injected _, s => s.recordInjectedError
  | rejected _, s => s.recordRejection
  | failed _, s => s.recordFailure
  | served _, s => s

end Outcome

/-- How far a request has come. The milliseconds that it has waited go along. -/
inductive Stage
  | arrived
  | routing
  /-- Matched; the scenario may delay it. -/
  | delaying (m : RouteMatch)
  /-- The scenario may fail it. -/
  | risking (m : RouteMatch) (delay : Nat)
  /-- Strict mode may reject it. -/
  | checking (m : RouteMatch) (delay : Nat)
  /-- Its route answers it. -/
  | answering (m : RouteMatch) (delay : Nat)
  | making (m : RouteMatch) (body : Making) (delay : Nat)
  /-- Its outcome is known, but not counted. -/
  | settled (outcome : Outcome) (delay : Nat)
  /-- Its time is not counted. -/
  | closing (response : Response) (delay : Nat)
  | finished (response : Response) (delay : Nat)

namespace Engine

def ofTable (config : Config) (table : RouteTable) (compiler : Compiler) (entropy : UInt64) :
    Engine where
  config
  table
  backend := { compiler, entropy := Cipher.ofSeed (entropy + 1) }
  injector := { bands := config.scenarios, source := Cipher.ofSeed (entropy + 2) }

def recorded (e : Engine) (f : Stats → Stats) : Engine := { e with stats := f e.stats }

/-! ### Stages -/

def rejection (e : Engine) (route : Route) (body : Option Json) : Option Validation.Failure :=
  if e.config.server.strictMode then
    route.validation.bind fun document =>
      match Validation.checkBody document body with
      | .ok () => none
      | .error failure => some failure
  else none

def outcomeOf (route : Route) : Except Error Json → Outcome
  | .ok body => .served { status := route.status, headers := route.headers, body }
  | .error e => .failed e

def afterMaking (m : RouteMatch) (delay : Nat) : Making → Stage
  | .made result => .settled (outcomeOf m.route result) delay
  | making => .making m making delay

def advance (e : Engine) (now : Instant) (request : Request) : Stage → Engine × Stage
  | .arrived => (e.recorded Stats.recordRequest, .routing)
  | .routing =>
    match e.table.matchRequest request.method request.path with
    | none => (e, .settled (.notFound request.method request.path) 0)
    | some m => (e, .delaying m)
  | .delaying m =>
    match e.config.server.scenario with
    | none => (e, .checking m 0)
    | some scenario =>
      match e.injector.sampleDelay scenario with
      | (injector, none) => ({ e with injector }, .risking m 0)
      | (injector, some delay) =>
        ({ e with injector }.recorded Stats.recordInjectedDelay, .risking m delay)
  | .risking m delay =>
    match e.config.server.scenario with
    | none => (e, .checking m delay)
    | some scenario =>
      match e.injector.sampleError scenario with
      | (injector, some error) => ({ e with injector }, .settled (.injected error) delay)
      | (injector, none) => ({ e with injector }, .checking m delay)
  | .checking m delay =>
    match e.rejection m.route request.body with
    | some failure => (e, .settled (.rejected failure) delay)
    | none => (e, .answering m (delay + m.route.delay.getD 0))
  | .answering m delay =>
    let (backend, making) := e.backend.begin now m.route.source m.params request.body
    ({ e with backend }, afterMaking m delay making)
  | .making m making delay =>
    let (backend, making) := e.backend.advance now making
    ({ e with backend }, afterMaking m delay making)
  | .settled outcome delay => (e.recorded outcome.record, .closing outcome.response delay)
  | .closing response delay =>
    (e.recorded (·.recordLatency (delay * 10 ^ 6)), .finished response delay)
  | .finished response delay => (e, .finished response delay)

def run (e : Engine) (now : Instant) (request : Request) : Nat → Stage → Engine × Stage
  | 0, stage => (e, stage)
  | fuel + 1, stage =>
    let (e, stage) := e.advance now request stage
    run e now request fuel stage

def stageLimit : Nat := 10

/-- A request from its arrival to its end, and the milliseconds that it waited. -/
def handle (e : Engine) (now : Instant) (request : Request) : Engine × Response × Nat :=
  match e.run now request stageLimit .arrived with
  | (e, .finished response delay) => (e, response, delay)
  | (e, _) => (e, .ofError (.internal "unfinished"), 0)

end Engine

end MockApi
