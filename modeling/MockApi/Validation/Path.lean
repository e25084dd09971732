import MockApi.Json.Printer

/-!
# Paths into a value

A path is a list of steps from the value that is checked to a part of it. Its text names members
after points and elements by their index; the value itself is `$`, which a member does not repeat.
-/

namespace MockApi.Validation

inductive Step
  | member (name : String)
  | element (index : Nat)
deriving DecidableEq

def rootPath : String := "$"

def childPath (parent name : String) : String :=
  if parent = rootPath then name else parent ++ "." ++ name

def indexPath (parent : String) (index : Nat) : String :=
  parent ++ "[" ++ toString index ++ "]"

def Step.extend (path : String) : Step → String
  | .member name => childPath path name
  | .element index => indexPath path index

/-- The text of a list of steps. -/
def renderPath (steps : List Step) : String := steps.foldl Step.extend rootPath

def Step.follow : Step → Json → Option Json
  | .member name, .object members => Table.get? members name
  | .element index, .array elements => elements[index]?
  | _, _ => none

def follow (steps : List Step) (value : Json) : Option Json :=
  steps.foldlM (fun value step => step.follow value) value

/-- Why a value does not fit: where, what was expected there, and what stands there. -/
structure Failure where
  path : String
  expected : String
  actual : Json

namespace Failure

def text (f : Failure) : String :=
  f.path ++ ": expected " ++ f.expected ++ ", got " ++ f.actual.compact

end Failure

end MockApi.Validation
