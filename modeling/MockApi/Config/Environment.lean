import MockApi.Config

/-!
# Environment variables

Variables that set single fields of a configuration, over what it says already.
-/

namespace MockApi.Config

abbrev Environment := List (String × String)

def Environment.get? (env : Environment) (name : String) : Option String :=
  (env.find? (·.1 = name)).map (·.2)

def withPortText (c : Config) (s : String) : Except Error Config :=
  match Text.readNat? (2 ^ 16) s.toList with
  | some port => .ok { c with server := { c.server with port } }
  | none => refuse "server.port" "Invalid port number"

def withScenarioText (c : Config) (s : String) : Except Error Config :=
  (Scenario.parse s).map fun scenario =>
    { c with server := { c.server with scenario := some scenario } }

def applyVariable (env : Environment) (name : String) (apply : Config → String → Except Error Config)
    (c : Config) : Except Error Config :=
  match env.get? name with
  | some value => apply c value
  | none => .ok c

/-- The configuration with the variables over it. Strict mode is on only for the exact text `true`. -/
def applyEnvironment (env : Environment) (c : Config) : Except Error Config := do
  let c ← applyVariable env "SCHEMA_MOCK_PORT" withPortText c
  let c ← applyVariable env "SCHEMA_MOCK_HOST"
    (fun c host => .ok { c with server := { c.server with host } }) c
  let c ← applyVariable env "SCHEMA_MOCK_STRICT"
    (fun c s => .ok { c with server := { c.server with strictMode := s == "true" } }) c
  let c ← applyVariable env "SCHEMA_MOCK_SCENARIO" withScenarioText c
  applyVariable env "SCHEMA_MOCK_LOG_LEVEL"
    (fun c logLevel => .ok { c with telemetry := { c.telemetry with logLevel } }) c

def ofEnvironment (env : Environment) : Except Error Config := do
  let c ← applyEnvironment env {}
  c.validate
  return c

end MockApi.Config
