import MockApi.Engine
import MockApi.Route.Definition

/-!
# Sessions

A session serves what it is defined by: a schema, for which routes are derived, and explicit routes, which
win over derived ones. It is stopped or running, and holds a listener exactly while it runs. What is
refused leaves the session as it was.
-/

namespace MockApi

structure Definition where
  schema : Option Json := none
  routes : List RouteDefinition := []

inductive Phase
  | stopped
  | starting
  | running
  | stopping
deriving DecidableEq

def Phase.name : Phase → String
  | stopped => "stopped"
  | starting => "starting"
  | running => "running"
  | stopping => "stopping"

structure Listener where
  address : Address
  port : Nat
deriving DecidableEq

inductive Binding
  | bound (listener : Listener)
  | inUse
  | failed (reason : String)

structure Session where
  config : Config
  definition : Definition
  engine : Engine
  phase : Phase
  listener : Option Listener

namespace Session

/-! ### What is served -/

/-- The routes of a definition: those derived for the schema first, then the explicit ones. -/
def routeTable (config : Config) (compiler : Compiler) (now : Instant) (definition : Definition) :
    Compiler × Except Error RouteTable :=
  let explicit (table : RouteTable) : Except Error RouteTable :=
    (RouteDefinition.toRoutes definition.routes).map table.insertAll
  match definition.schema with
  | none => (compiler, explicit {})
  | some schema =>
    match compiler.prepare now schema with
    | (compiler, .error e) => (compiler, .error e)
    | (compiler, .ok prepared) =>
      (compiler, explicit <| RouteTable.insertAll {} <| Resource.derivedRoutes
        config.server.basePath config.generation.listMin config.generation.listMax
        prepared.document config.server.resourceName)

def buildEngine (config : Config) (entropy : UInt64) (now : Instant) (definition : Definition) :
    Except Error Engine := do
  config.validate
  let compiler := Compiler.ofConfig config.generation config.cache entropy
  let (compiler, table) := routeTable config compiler now definition
  return Engine.ofTable config (← table) compiler entropy

def create (config : Config) (entropy : UInt64) (now : Instant) (definition : Definition) :
    Except Error Session := do
  let engine ← buildEngine config entropy now definition
  return ⟨config, definition, engine, .stopped, none⟩

/-! ### Life -/

def isRunning (s : Session) : Bool := s.phase == .running

/-- The session started, on a port that `bind` tries to bind. One that runs goes on. -/
def start (s : Session) (bind : Address → Nat → Binding) : Session × Except Error Listener :=
  match s.listener with
  | some listener => (s, .ok listener)
  | none =>
    match s.config.server.socketAddress with
    | .error e => ({ s with phase := .stopped }, .error e)
    | .ok address =>
      let port := s.config.server.port
      match bind address port with
      | .bound listener => ({ s with phase := .running, listener := some listener }, .ok listener)
      | .inUse => ({ s with phase := .stopped }, .error (.portInUse port))
      | .failed reason => ({ s with phase := .stopped }, .error <| .internal <|
          "Failed to bind " ++ address.withPort port ++ ": " ++ reason)

def stop (s : Session) : Session :=
  match s.listener with
  | none => s
  | some _ => { s with phase := .stopped, listener := none }

def restart (s : Session) (config : Option Config) (entropy : UInt64) (now : Instant)
    (bind : Address → Nat → Binding) : Session × Except Error Listener :=
  match config with
  | none => s.stop.start bind
  | some config =>
    match buildEngine config entropy now s.definition with
    | .error e => (s, .error e)
    | .ok engine => { s.stop with config, engine }.start bind

/-- Another definition served. The listener stays. -/
def reload (s : Session) (now : Instant) (definition : Definition) : Session × Except Error Unit :=
  let backend := s.engine.backend
  let (compiler, result) := routeTable s.config backend.compiler now definition
  let engine := { s.engine with backend := { backend with compiler } }
  match result with
  | .error e => ({ s with engine }, .error e)
  | .ok table => ({ s with definition, engine := { engine with table } }, .ok ())

end Session

end MockApi
