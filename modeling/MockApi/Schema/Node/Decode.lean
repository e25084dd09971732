import MockApi.Json.Field
import MockApi.Schema.Node

/-!
# Reading schema nodes

A node is read from JSON in one walk from the leaves up. Each value is seen as everything that it can
be inside a node (`View`): plain JSON, a node, a table of nodes, a list of nodes. A keyword then picks
the view that it needs.
-/

namespace MockApi.Schema

open Json (optionalField plainField)

/-- A kind, by its name, or as an object whose one member is the name with null. -/
def Kind.ofJson? : Json → Option Kind
  | .string s => ofName? s
  | .object [(s, .null)] => ofName? s
  | _ => none

def TypeSet.ofJson? (value : Json) : Option TypeSet :=
  match Kind.ofJson? value with
  | some kind => some (.single kind)
  | none => (Json.asListOf? Kind.ofJson? value).map .union

def ExclusiveBound.ofJson? : Json → Option ExclusiveBound
  | .bool on => some (.flag on)
  | bound => (Json.asDouble? bound).map .value

/-- What a value can be inside a node. -/
structure View where
  json : Json
  node : Option Node
  table : Option (List (String × Node))
  list : Option (List Node)

/-- A list of nodes is a tuple; anything else has to be a node. -/
def View.items? (view : View) : Option (Items Node) :=
  match view.list with
  | some positions => some (.tuple positions)
  | none => view.node.map .single

namespace Node

def keywordNames : List String := [
  "type", "$ref", "title", "description", "minLength", "maxLength", "pattern", "format", "minimum",
  "maximum", "exclusiveMinimum", "exclusiveMaximum", "multipleOf", "enum", "const", "default",
  "examples", "nullable", "properties", "required", "items", "minItems", "maxItems", "oneOf",
  "anyOf", "allOf", "definitions", "$defs"]

def keywordsOf? (field : String → Option Json) : Option Keywords := do
  let type ← optionalField TypeSet.ofJson? (field "type")
  let reference ← optionalField Json.asString? (field "$ref")
  let title ← optionalField Json.asString? (field "title")
  let description ← optionalField Json.asString? (field "description")
  let minLength ← optionalField Json.asNat? (field "minLength")
  let maxLength ← optionalField Json.asNat? (field "maxLength")
  let pattern ← optionalField Json.asString? (field "pattern")
  let format ← optionalField Json.asString? (field "format")
  let minimum ← optionalField Json.asDouble? (field "minimum")
  let maximum ← optionalField Json.asDouble? (field "maximum")
  let exclusiveMinimum ← optionalField ExclusiveBound.ofJson? (field "exclusiveMinimum")
  let exclusiveMaximum ← optionalField ExclusiveBound.ofJson? (field "exclusiveMaximum")
  let multipleOf ← optionalField Json.asDouble? (field "multipleOf")
  let enumeration ← optionalField Json.asArray? (field "enum")
  let constant ← optionalField some (field "const")
  let default ← optionalField some (field "default")
  let examples ← optionalField Json.asArray? (field "examples")
  let nullable ← optionalField Json.asBool? (field "nullable")
  let required ← plainField [] (Json.asListOf? Json.asString?) (field "required")
  let minItems ← optionalField Json.asNat? (field "minItems")
  let maxItems ← optionalField Json.asNat? (field "maxItems")
  return ⟨type, reference, title, description, minLength, maxLength, pattern, format, minimum,
    maximum, exclusiveMinimum, exclusiveMaximum, multipleOf, enumeration, constant, default,
    examples, nullable, required, minItems, maxItems⟩

def partsField {α : Type} (part : View → Option (List α)) (field : Option View) :
    Option (List α) :=
  match field with
  | none => some []
  | some view => part view

def itemsField (field : Option View) : Option (Option (Items Node)) :=
  match field with
  | none => some none
  | some view => if view.json.isNull then some none else view.items?.map some

def ofFields? (fields : List (String × View)) : Option Node := do
  let field := Table.get? fields
  let keywords ← keywordsOf? fun name => (field name).map View.json
  let properties ← partsField View.table (field "properties")
  let items ← itemsField (field "items")
  let oneOf ← partsField View.list (field "oneOf")
  let anyOf ← partsField View.list (field "anyOf")
  let allOf ← partsField View.list (field "allOf")
  let definitions ← partsField View.table (field "definitions")
  let defs ← partsField View.table (field "$defs")
  return ⟨keywords, properties, items, oneOf, anyOf, allOf, definitions, defs⟩

end Node

def View.nodes? (views : List View) : Option (List Node) := views.mapM View.node

def View.namedNodes? (views : List (String × View)) : Option (List (String × Node)) :=
  views.mapM fun (name, view) => view.node.map (name, ·)

mutual

def View.ofJson : Json → View
  | .object members =>
    let views := ofMembers members
    ⟨.object members, Node.ofFields? views, View.namedNodes? views, none⟩
  | .array elements =>
    let views := ofElements elements
    ⟨.array elements, (Json.record Node.keywordNames views).bind Node.ofFields?, none,
      View.nodes? views⟩
  | value => ⟨value, none, none, none⟩

def View.ofElements : List Json → List View
  | [] => []
  | x :: rest => View.ofJson x :: View.ofElements rest

def View.ofMembers : List (String × Json) → List (String × View)
  | [] => []
  | (name, x) :: rest => (name, View.ofJson x) :: View.ofMembers rest

end

/-- The node that a value writes, as an object or as an array of its keywords in order. -/
def Node.ofJson? (value : Json) : Option Node := (View.ofJson value).node

def Node.tableOfJson? (value : Json) : Option (List (String × Node)) := (View.ofJson value).table

end MockApi.Schema
