import MockApi.Json

/-!
# Fields of a record

A record may be written as an object or as an array that holds its fields in order. A field that may
be absent takes `null` for absent; any other field refuses it.
-/

namespace MockApi.Json

/-- The fields of a record: the members of an object, or the elements of an array under `names`.
An array may end early but not late. -/
def record {α : Type} (names : List String) (elements : List α) : Option (List (String × α)) :=
  if elements.length ≤ names.length then some (names.zip elements) else none

def optionalField {α : Type} (decode : Json → Option α) (field : Option Json) : Option (Option α) :=
  match field with
  | none => some none
  | some .null => some none
  | some value => (decode value).map some

def plainField {α : Type} (absent : α) (decode : Json → Option α) (field : Option Json) :
    Option α :=
  match field with
  | none => some absent
  | some value => decode value

def asString? : Json → Option String
  | .string s => some s
  | _ => none

def asBool? : Json → Option Bool
  | .bool b => some b
  | _ => none

def asNat? : Json → Option Nat
  | .number (.whole n) => if 0 ≤ n then some n.toNat else none
  | _ => none

def asNatBelow? (limit : Nat) (value : Json) : Option Nat :=
  (asNat? value).filter (· < limit)

def asDouble? : Json → Option Binary64.Finite
  | .number n =>
    match n.toBinary64 with
    | .finite x => some x
    | _ => none
  | _ => none

def asArray? : Json → Option (List Json)
  | .array elements => some elements
  | _ => none

def asObject? : Json → Option (List (String × Json))
  | .object members => some members
  | _ => none

def asListOf? {α : Type} (decode : Json → Option α) (value : Json) : Option (List α) :=
  (asArray? value).bind (·.mapM decode)

def asTableOf? {α : Type} (decode : Json → Option α) (value : Json) : Option (List (String × α)) :=
  (asObject? value).bind (·.mapM fun (name, x) => (decode x).map (name, ·))

end MockApi.Json
