import MockApi.Json.Field
import MockApi.Json.Reader

/-!
# Trees that records are read from

A record may be written in several formats, which differ in what a plain word can be taken for. A format
gives an instance of `Tree`, and a record is then read once for all of them. A record is an object, or an
array that holds its fields in order; it refuses a field that is given twice and ignores fields that it
does not know.
-/

namespace MockApi

/-- A value of some format, and what it can be taken for. -/
class Tree (α : Type) where
  isNull : α → Bool
  text? : α → Option String
  name? : α → Option String
  bool? : α → Option Bool
  nat? : α → Option Nat
  real? : α → Option Binary64
  elements? : α → Option (List α)
  members? : α → Option (List (String × α))
  /-- The value as a record that is written as an array. -/
  positions? : α → Option (List α)
  json? : α → Option Json

namespace Tree

variable {α β : Type} [Tree α]

def jsonName? : Json → Option String
  | .string s => some s
  | .object [(s, .null)] => some s
  | _ => none

instance : Tree Json where
  isNull := Json.isNull
  text? := Json.asString?
  name? := jsonName?
  bool? := Json.asBool?
  nat? := Json.asNat?
  real? value := (Json.asDouble? value).map .finite
  elements? := Json.asArray?
  members? := Json.asObject?
  positions? := Json.asArray?
  json? value := some value.normalize

def natBelow? (limit : Nat) (tree : α) : Option Nat := (nat? tree).filter (· < limit)

def listOf? (decode : α → Option β) (tree : α) : Option (List β) :=
  (elements? tree).bind (·.mapM decode)

def tableOf? (decode : α → Option β) (tree : α) : Option (Table β) :=
  (members? tree).bind fun members =>
    (members.mapM fun (entry : String × α) => (decode entry.2).map (entry.1, ·)).map Table.ofList

/-- The spellings of a field, the first of them its name. -/
abbrev Spellings := List String

def spelled (spellings : Spellings) (members : List (String × α)) : List α :=
  (members.filter fun member => spellings.contains member.1).map (·.2)

/-- The fields of a record that are given, in the order of `fields`; `none` if one is given twice. -/
def record? (fields : List Spellings) (tree : α) : Option (List (String × α)) :=
  match members? tree with
  | some members =>
    (fields.mapM fun (spellings : Spellings) => match spelled spellings members with
      | [] => some []
      | [x] => some [(spellings.headD "", x)]
      | _ => none).map List.flatten
  | none =>
    (positions? tree).bind (Json.record (fields.map (·.headD "")))

def field {γ : Type} (record : List (String × α)) (name : String) (absent : γ)
    (decode : α → Option γ) : Option γ :=
  match Table.get? record name with
  | none => some absent
  | some tree => decode tree

/-- A field that may be absent, for which null is the same. -/
def optionField {γ : Type} (record : List (String × α)) (name : String) (absent : Option γ)
    (decode : α → Option γ) : Option (Option γ) :=
  match Table.get? record name with
  | none => some absent
  | some tree => if isNull tree then some none else (decode tree).map some

end Tree

end MockApi
