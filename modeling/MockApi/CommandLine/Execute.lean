import MockApi.CommandLine.Invocation
import MockApi.Config.Encode
import MockApi.Config.File
import MockApi.LogFilter
import MockApi.Route.File
import MockApi.Session
import MockApi.Toml.Printer
import MockApi.Yaml.Printer

/-!
# Executing commands

What comes of a command line: a text to print, a session to serve, or a failure. Files and the environment
are given, and so is the entropy for what has no seed.
-/

namespace MockApi.CommandLine

/-- What comes of a command line. -/
inductive Outcome
  | printed (text : String)
  /-- The session is to be served; unless it is quiet, the text is printed first. -/
  | serving (session : Session) (banner : Option String)
  | stopped (stop : Stop)
  | refused (e : Error)
  | failed (message : String)
  | overflowed

def Outcome.ofFault : Generation.Fault → Outcome
  | .danglingReference pointer => refused (.danglingReference pointer)
  | .unholdableText _ => overflowed

structure Surroundings where
  files : Files
  env : Config.Environment
  entropy : UInt64
  now : Instant

abbrev Execution := ExceptT Outcome (ReaderM Surroundings)

namespace Execution

def orRefuse {α : Type} : Except Error α → Execution α
  | .ok x => pure x
  | .error e => throw (.refused e)

def orFail {α : Type} (message : String) : Option α → Execution α
  | some x => pure x
  | none => throw (.failed message)

end Execution

open Execution

/-! ### Files -/

def loadValue (path : String) : Execution Json := do
  let text ← orFail ("Failed to read " ++ path) ((← read).files.read path).toOption
  if Files.isYaml path then orFail ("Invalid YAML in " ++ path) ((Yaml.read text).bind Yaml.json?)
  else orFail ("Invalid JSON in " ++ path) (Json.read text)

def loadDefinition (schema routes : Option String) : Execution Definition := do
  if schema.isNone && routes.isNone then
    throw (.failed "Nothing to serve: pass --schema and/or --routes")
  let schema ← schema.mapM loadValue
  let routes ← match routes with
    | some path => do orRefuse (RouteDefinition.listOfFile (← read).files path)
    | none => pure []
  return ⟨schema, routes⟩

def loadConfig (i : Invocation) : Execution Config := do
  let config ← match i.config with
    | some path => do orRefuse (Config.ofFile (← read).files path)
    | none => do orRefuse (Config.ofEnvironment (← read).env)
  return { config with telemetry :=
    { config.telemetry with logLevel := i.logLevel, jsonLogs := i.jsonLogs } }

/-! ### Commands -/

def ServeOptions.over (o : ServeOptions) (c : Config) : Config :=
  { c with
    server := { c.server with
      port := o.port.getD c.server.port
      host := o.host.getD c.server.host
      basePath := o.basePath.getD c.server.basePath
      resourceName := o.resourceName.or c.server.resourceName
      scenario := o.scenario.or c.server.scenario
      strictMode := c.server.strictMode || o.strict
      hideBranding := c.server.hideBranding || o.hideBranding
      corsEnabled := c.server.corsEnabled && !o.noCors }
    generation := { c.generation with seed := o.seed.or c.generation.seed } }

def onOff (on : Bool) : String := if on then "enabled" else "disabled"

def scenarioText (scenario : Option Scenario) : String := (scenario.map Scenario.name).getD "none"

def banner (s : Session) : String :=
  let server := s.config.server
  let address := server.host ++ ":" ++ toString server.port
  let route (method path : String) : String :=
    "  • " ++ Text.padEnd 7 method ++ " http://" ++ address ++ path ++ "\n"
  "schema-mock v0.1.0\n\nConfiguration:\n" ++
    "  • Server:    " ++ address ++ "\n" ++
    "  • Strict:    " ++ onOff server.strictMode ++ "\n" ++
    "  • Scenario:  " ++ scenarioText server.scenario ++ "\n" ++
    "  • Seed:      " ++ (s.config.generation.seed.map toString).getD "random" ++ "\n\n" ++
    "Routes:\n" ++
    String.join (s.engine.table.routes.map fun r => route r.method.name r.path) ++
    route "GET" "/health" ++ "\n"

def serve (o : ServeOptions) (quiet : Bool) (config : Config) : Execution Outcome := do
  let config := o.over config
  let definition ← loadDefinition o.schema o.routes
  let around ← read
  orRefuse (config.telemetry.prepare (around.env.get? Config.filterVariable))
  let session ← orFail "Failed to build mock server"
    (Session.create config around.entropy around.now definition).toOption
  return .serving session (if quiet then none else some (banner session))

/-- One value as it is, and any other number of values as an array. -/
def sampleDraw (plan : Generation.Plan Cipher) (count : Nat) (compiler : Compiler) :
    Except Generation.Fault Json :=
  if count = 1 then (compiler.run (Generation.generate plan plan.document.root)).2
  else ((compiler.run (Generation.generateMany plan count)).2).map .array

def generate (o : GenerateOptions) (config : Config) : Execution Outcome := do
  let generation := { config.generation with seed := o.seed.or config.generation.seed }
  let schema ← loadValue o.schema
  let around ← read
  let compiler := Compiler.ofConfig generation {} around.entropy
  let (compiler, prepared) := compiler.prepare around.now schema
  let prepared ← orRefuse prepared
  match sampleDraw (compiler.plan around.now prepared.document) o.count compiler with
  | .ok value => return .printed ((if o.compact then value.compact else value.pretty) ++ "\n")
  | .error fault => throw (.ofFault fault)

def routeRow (method path status source : String) : String :=
  Text.padEnd 8 method ++ " " ++ Text.padEnd 40 path ++ " " ++ Text.padEnd 7 status ++ " " ++ source ++
    "\n"

def routeRows (t : RouteTable) : String :=
  routeRow "METHOD" "PATH" "STATUS" "SOURCE" ++ String.join (t.routes.map fun r =>
    routeRow r.method.name r.path (toString r.status) r.source.kind)

def routeJson (r : Route) : Json :=
  .ofMembers [("method", .string r.method.name), ("path", .string r.path), ("status", .ofNat r.status),
    ("source", .string r.source.kind), ("validated", .bool r.validation.isSome)]

def listRoutes (o : RoutesOptions) (config : Config) : Execution Outcome := do
  let definition ← loadDefinition o.schema o.routes
  let around ← read
  let compiler := Compiler.ofConfig config.generation {} around.entropy
  let table ← orRefuse (Session.routeTable config compiler around.now definition).2
  if o.format = "json" then
    return .printed ((Json.array (table.routes.map routeJson)).pretty ++ "\n")
  return .printed (routeRows table)

def showConfig (format : String) (config : Config) : Execution Outcome :=
  let value := config.toJson
  match format with
  | "toml" =>
    match Toml.render ((Json.asObject? value).getD []) with
    | .ok text => pure (.printed (text ++ "\n"))
    | .error reason => throw (.failed reason)
  | "json" => pure (.printed (value.pretty ++ "\n"))
  | _ => pure (.printed (Yaml.render value ++ "\n"))

/-- A path between quotes, with escapes for what is not plain text. -/
def quotedPath (path : String) : String :=
  let escape (c : Char) : String :=
    match c with
    | '"' => "\\\""
    | '\\' => "\\\\"
    | '\n' => "\\n"
    | '\r' => "\\r"
    | '\t' => "\\t"
    | '\x00' => "\\0"
    | c =>
      if c.toNat < 32 ∨ c.toNat = 127 then
        "\\u\x7b" ++ String.ofList (Nat.toDigits 16 c.toNat) ++ "\x7d"
      else c.toString
  "\"" ++ String.join (path.toList.map escape) ++ "\""

def validateConfig (path : String) : Execution Outcome := do
  let server := (← orRefuse (Config.ofFile (← read).files path)).server
  return .printed <|
    "Configuration at " ++ quotedPath path ++ " is valid\n" ++
    "  Server:    " ++ server.host ++ ":" ++ toString server.port ++ "\n" ++
    "  Strict:    " ++ toString server.strictMode ++ "\n" ++
    "  Scenario:  " ++ scenarioText server.scenario ++ "\n"

def versionText : String :=
  "schema-mock 0.1.0\n\nBuild Information:\n  Version:       0.1.0\n  Rust Version:  1.75\n"

def execute (i : Invocation) : Execution Outcome := do
  let config ← loadConfig i
  match i.command with
  | .serve options => serve options i.quiet config
  | .generate options => generate options config
  | .routes options => listRoutes options config
  | .showConfig format => showConfig format config
  | .validateConfig path => validateConfig path
  | .version => return .printed versionText

def run (around : Surroundings) (args : List String) : Outcome :=
  match Invocation.read around.env args with
  | .error stop => .stopped stop
  | .ok i => match execute i around with
    | .ok outcome => outcome
    | .error outcome => outcome

end MockApi.CommandLine
