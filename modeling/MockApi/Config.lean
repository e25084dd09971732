import MockApi.Config.Duration
import MockApi.Config.Scenario
import MockApi.Text.Address

/-!
# Configuration

What can be set about a mock server, with the values for what is not set, and the checks that a
configuration has to pass before it is used. The checks are made in order, and the first that fails is
reported with the field that is to blame.
-/

namespace MockApi

namespace Config

structure Server where
  host : String := "127.0.0.1"
  port : Nat := 3000
  corsEnabled : Bool := true
  strictMode : Bool := false
  scenario : Option Scenario := none
  hideBranding : Bool := false
  basePath : String := "/api"
  /-- The noun for the resource, in place of the title of its schema. -/
  resourceName : Option String := none
  /-- How long stopping waits for requests. -/
  drainTimeout : Duration := .ofSeconds 10

def sevenTenths : Binary64 := Binary64.ofRatio false (7 * Binary64.unitsPerOne) 10

def threeTenths : Binary64 := Binary64.ofRatio false (3 * Binary64.unitsPerOne) 10

structure Generation where
  optionalProbability : Binary64 := sevenTenths
  maxDepth : Nat := 8
  listMin : Nat := 3
  listMax : Nat := 10
  useExamples : Bool := false
  seed : Option Nat := none

structure Bands where
  slowMin : Nat := 500
  slowMax : Nat := 2000
  errorProbability : Binary64 := threeTenths
  errorStatuses : List Nat := [400, 404, 409, 429, 500, 502, 503]

structure Caching where
  capacity : Nat := 128
  ttl : Option Duration := none

structure Telemetry where
  enabled : Bool := true
  logLevel : String := "info"
  jsonLogs : Bool := false
  serviceName : String := "schema-mock"

end Config

structure Config where
  server : Config.Server := {}
  generation : Config.Generation := {}
  scenarios : Config.Bands := {}
  cache : Config.Caching := {}
  telemetry : Config.Telemetry := {}

namespace Config

def forTesting (port : Nat) : Config :=
  { server := { port }, generation := { seed := some 7 } }

def refuse {α : Type} (field message : String) : Except Error α := .error (.ofField message field)

def Server.socketAddress (s : Server) : Except Error Address :=
  if s.host.isEmpty || s.host.toList.any Text.isBlank then
    refuse "server.host" ("Invalid host '" ++ s.host ++ "'")
  else match Address.ofString? s.host with
    | some address => .ok address
    | none => refuse "server.host"
        ("Cannot resolve bind address " ++ s.host ++ ":" ++ toString s.port)

def Server.validate (s : Server) : Except Error Unit := do
  if s.port = 0 then refuse "server.port" "Port must be between 1 and 65535"
  let _ ← s.socketAddress
  if !s.basePath.isEmpty && !Text.startsWith s.basePath "/" then
    refuse "server.base_path" ("base_path must start with '/': " ++ s.basePath)
  if s.resourceName.any (Text.trim · |>.isEmpty) then
    refuse "server.resource_name" "resource_name cannot be empty"

def Generation.validate (g : Generation) : Except Error Unit := do
  if !(Binary64.zero.le g.optionalProbability && g.optionalProbability.lt Binary64.one) then
    refuse "generation.optional_property_probability"
      "optional_property_probability must be in [0.0, 1.0)"
  if g.maxDepth = 0 then refuse "generation.max_depth" "max_depth must be greater than 0"
  if g.listMax < g.listMin then
    refuse "generation.list_min" "list_min cannot exceed list_max"

def isErrorStatus (status : Nat) : Bool := decide (400 ≤ status) && decide (status ≤ 599)

/-- The first status that does not tell of an error, with its place. -/
def firstWrongStatus (index : Nat) : List Nat → Option (Nat × Nat)
  | [] => none
  | status :: rest =>
    if isErrorStatus status then firstWrongStatus (index + 1) rest else some (index, status)

def Bands.validate (b : Bands) : Except Error Unit := do
  if b.slowMax < b.slowMin then
    refuse "scenarios.slow_delay_min_ms" "slow_delay_min_ms cannot exceed slow_delay_max_ms"
  if !(Binary64.zero.le b.errorProbability && b.errorProbability.le Binary64.one) then
    refuse "scenarios.error_probability" "error_probability must be between 0.0 and 1.0"
  if b.errorStatuses.isEmpty then
    refuse "scenarios.error_statuses" "error_statuses cannot be empty"
  match firstWrongStatus 0 b.errorStatuses with
  | some (index, status) =>
    refuse ("scenarios.error_statuses[" ++ toString index ++ "]")
      ("Status " ++ toString status ++ " is not a 4xx/5xx code")
  | none => pure ()

def Caching.validate (c : Caching) : Except Error Unit :=
  if c.capacity = 0 then refuse "cache.capacity" "cache capacity must be greater than 0" else .ok ()

def validate (c : Config) : Except Error Unit := do
  c.server.validate
  c.generation.validate
  c.scenarios.validate
  c.cache.validate

end Config

end MockApi
