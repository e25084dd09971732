import MockApi.Json

/-!
# Kinds of values

The seven names that a schema may give as a type, and which values are of which kind. A whole number
is of two kinds.
-/

namespace MockApi.Schema

inductive Kind
  | string
  | number
  | integer
  | boolean
  | object
  | array
  | null
deriving DecidableEq

namespace Kind

def all : List Kind := [.string, .number, .integer, .boolean, .object, .array, .null]

def name : Kind → String
  | .string => "string"
  | .number => "number"
  | .integer => "integer"
  | .boolean => "boolean"
  | .object => "object"
  | .array => "array"
  | .null => "null"

def ofName? (s : String) : Option Kind := all.find? (·.name == s)

/-- Whether a value is of the kind. A double without fraction is an integer too. -/
def admits : Kind → Json → Bool
  | .string, .string _ => true
  | .number, .number _ => true
  | .integer, .number (.whole _) => true
  | .integer, .number (.double x) => x.isWhole
  | .boolean, .bool _ => true
  | .object, .object _ => true
  | .array, .array _ => true
  | .null, .null => true
  | _, _ => false

theorem ofName?_name (k : Kind) : ofName? k.name = some k := by cases k <;> decide +kernel

end Kind

end MockApi.Schema
