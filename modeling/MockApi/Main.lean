import MockApi.CommandLine.Execute
import Std.Time.DateTime.Timestamp

/-!
# The program

The command line with its surroundings: the environment, the files that the arguments name, the clock and
random bytes. Everything that is decided is decided by `CommandLine.run`.
-/

namespace MockApi.Program

def variableNames : List String := [
  "SCHEMA_MOCK_CONFIG", "SCHEMA_MOCK_LOG_LEVEL", "SCHEMA_MOCK_JSON_LOGS", "SCHEMA_MOCK_PORT",
  "SCHEMA_MOCK_HOST", "SCHEMA_MOCK_STRICT", "SCHEMA_MOCK_SCENARIO", Config.filterVariable]

def readEnvironment : IO Config.Environment :=
  variableNames.filterMapM fun name => do
    return (← IO.getEnv name).map (name, ·)

def readFiles (paths : List String) : IO Files :=
  paths.filterMapM fun (path : String) => do
    try return some (path, ← IO.FS.readFile path) catch _ => return none

def readEntropy : IO UInt64 := do
  let bytes ← IO.getRandomBytes 8
  return bytes.toList.foldl (fun word byte => word * 256 + byte.toUInt64) 0

def readClock : IO Instant := do
  return ⟨(← Std.Time.Timestamp.now).toMillisecondsSinceUnixEpoch.val⟩

def readSurroundings (args : List String) : IO CommandLine.Surroundings := do
  let env ← readEnvironment
  let paths := match CommandLine.Invocation.read env args with
    | .ok i => i.paths
    | .error _ => []
  return ⟨← readFiles paths, env, ← readEntropy, ← readClock⟩

def usage : String := "Usage: schema-mock [OPTIONS] <serve|generate|routes|config|version>"

/-- Tells what came of the arguments; the result is the exit code. -/
def tell : CommandLine.Outcome → IO UInt32
  | .printed text => do
    IO.print text
    return 0
  | .serving _ banner => do
    IO.print (banner.getD "")
    IO.eprintln "Error: no listener is available"
    return 1
  | .stopped .displayHelp => do
    IO.println usage
    return 0
  | .stopped .displayVersion => do
    IO.println "schema-mock 0.1.0"
    return 0
  | .stopped stop => do
    IO.eprintln ("error: " ++ stop.name ++ "\n\n" ++ usage)
    return 2
  | .refused e => do
    IO.eprintln ("Error: " ++ e.message)
    return 1
  | .failed message => do
    IO.eprintln ("Error: " ++ message)
    return 1
  | .overflowed => do
    IO.eprintln "Error: a text is too long to be held"
    return 101

end MockApi.Program

def main (args : List String) : IO UInt32 := do
  MockApi.Program.tell (MockApi.CommandLine.run (← MockApi.Program.readSurroundings args) args)
