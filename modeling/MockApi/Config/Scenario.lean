import MockApi.Error
import MockApi.Text.Parts

/-!
# Scenarios

A scenario makes requests slow, makes them fail, or both. Its bands say how slow and how often.
-/

namespace MockApi

inductive Scenario
  | happyPath
  | slow
  | errorHeavy
  | sadPath
deriving DecidableEq

namespace Scenario

def all : List Scenario := [happyPath, slow, errorHeavy, sadPath]

def name : Scenario → String
  | happyPath => "happy-path"
  | slow => "slow"
  | errorHeavy => "error-heavy"
  | sadPath => "sad-path"

def injectsLatency : Scenario → Bool
  | slow | sadPath => true
  | happyPath | errorHeavy => false

def injectsErrors : Scenario → Bool
  | errorHeavy | sadPath => true
  | happyPath | slow => false

def ofName? (s : String) : Option Scenario := all.find? (·.name == s)

/-- A text without blanks around it, in lower case, with hyphens for underscores. -/
def canonicalName (s : String) : String :=
  (Text.lowerAscii (Text.trim s)).map fun c => if c = '_' then '-' else c

def parse (s : String) : Except Error Scenario :=
  match canonicalName s with
  | "happy-path" | "happy" => .ok happyPath
  | "slow" => .ok slow
  | "error-heavy" | "errors" => .ok errorHeavy
  | "sad-path" | "sad" => .ok sadPath
  | other => .error (.ofField ("Unknown scenario '" ++ other ++ "'") "server.scenario")

end Scenario

end MockApi
