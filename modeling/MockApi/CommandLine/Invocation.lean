import MockApi.CommandLine.Argument

/-!
# Invocations

What a command line asks for: a command with its options, and the options of all commands.
-/

namespace MockApi.CommandLine

/-- The options of serving. They go over the configuration. -/
structure ServeOptions where
  schema : Option String
  routes : Option String
  port : Option Nat
  host : Option String
  strict : Bool
  scenario : Option Scenario
  basePath : Option String
  resourceName : Option String
  noCors : Bool
  hideBranding : Bool
  seed : Option Nat

structure GenerateOptions where
  schema : String
  count : Nat
  seed : Option Nat
  compact : Bool

structure RoutesOptions where
  schema : Option String
  routes : Option String
  format : String

inductive Command
  | serve (options : ServeOptions)
  | generate (options : GenerateOptions)
  | routes (options : RoutesOptions)
  | showConfig (format : String)
  | validateConfig (path : String)
  | version

def Command.paths : Command → List String
  | serve options => options.schema.toList ++ options.routes.toList
  | generate options => [options.schema]
  | routes options => options.schema.toList ++ options.routes.toList
  | validateConfig path => [path]
  | showConfig _ | version => []

structure Invocation where
  config : Option String
  logLevel : String
  jsonLogs : Bool
  quiet : Bool
  command : Command

namespace Invocation

def paths (i : Invocation) : List String := i.config.toList ++ i.command.paths

/-- The command of a level; a level of which no command comes of itself stands for `version`. -/
def commandOf (level : Level) (text? : String → Option String) : Command :=
  let flag (name : String) : Bool := ((text? name).bind readFlag?).getD false
  let count? (name : String) : Option Nat := (text? name).bind readCount?
  match level with
  | .serve => .serve {
      schema := text? "schema"
      routes := text? "routes"
      port := (text? "port").bind readPort?
      host := text? "host"
      strict := flag "strict"
      scenario := (text? "scenario").bind readScenario?
      basePath := text? "base-path"
      resourceName := text? "resource-name"
      noCors := flag "no-cors"
      hideBranding := flag "hide-branding"
      seed := count? "seed" }
  | .generate => .generate {
      schema := (text? "schema").getD ""
      count := (count? "count").getD 1
      seed := count? "seed"
      compact := flag "compact" }
  | .routes => .routes ⟨text? "schema", text? "routes", (text? "format").getD "table"⟩
  | .showConfig => .showConfig ((text? "format").getD "yaml")
  | .validateConfig => .validateConfig ((text? "file").getD "")
  | .version | .top | .config => .version

def read (env : Config.Environment) (args : List String) : Except Stop Invocation := do
  let (level, given) ← readLevels env levelLimit .top args
  let text? (name : String) : Option String := lookup env level given name
  return {
    config := text? "config"
    logLevel := (text? "log-level").getD "info"
    jsonLogs := ((text? "json-logs").bind readFlag?).getD false
    quiet := (text? "quiet").isSome
    command := commandOf level text? }

end Invocation

end MockApi.CommandLine
