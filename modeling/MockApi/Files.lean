import MockApi.Text.Parts

/-!
# Files

Texts under paths. The ending of a path says in which format its text is written.
-/

namespace MockApi

abbrev Files := List (String × String)

namespace Files

open Text

def components (path : String) : List (List Char) :=
  (splitOn '/' path.toList).filter fun part => !part.isEmpty && part != ['.']

def missing : String := "No such file or directory (os error 2)"

/-- The text of a file, or why it cannot be read. Paths are the same if their components are. -/
def read (files : Files) (path : String) : Except String String :=
  match files.find? fun file => components file.1 == components path with
  | some file => .ok file.2
  | none => .error missing

/-- What stands behind the last point of a name, unless the name starts with that point. -/
def nameExtension? (name : List Char) : Option String :=
  let ending := (name.reverse.takeWhile (· ≠ '.')).reverse
  if name.length ≤ ending.length + 1 ∨ name = ['.', '.'] then none
  else some (String.ofList ending)

def extension? (path : String) : Option String :=
  (components path).getLast?.bind nameExtension?

def isYaml (path : String) : Bool :=
  extension? path == some "yaml" || extension? path == some "yml"

end Files

end MockApi
