import MockApi.Schema.Node

/-!
# Writing schema nodes

A node is written as an object of the keywords that it has. Bounds are written as doubles, and empty
tables and lists of nodes are left out.
-/

namespace MockApi.Schema

def TypeSet.toJson : TypeSet → Json
  | .single kind => .string kind.name
  | .union kinds => .array (kinds.map fun kind => .string kind.name)

def ExclusiveBound.toJson : ExclusiveBound → Json
  | .flag on => .bool on
  | .value x => .number (.double x)

def optionalMember {α : Type} (name : String) (encode : α → Json) (value : Option α) :
    List (String × Json) :=
  match value with
  | none => []
  | some x => [(name, encode x)]

def partsMember {α : Type} (name : String) (encode : List α → Json) (parts : List α) :
    List (String × Json) :=
  if parts.isEmpty then [] else [(name, encode parts)]

def Keywords.members (k : Keywords) : List (String × Json) :=
  optionalMember "type" TypeSet.toJson k.type ++
  optionalMember "$ref" .string k.reference ++
  optionalMember "title" .string k.title ++
  optionalMember "description" .string k.description ++
  optionalMember "minLength" Json.ofNat k.minLength ++
  optionalMember "maxLength" Json.ofNat k.maxLength ++
  optionalMember "pattern" .string k.pattern ++
  optionalMember "format" .string k.format ++
  optionalMember "minimum" (.number <| .double ·) k.minimum ++
  optionalMember "maximum" (.number <| .double ·) k.maximum ++
  optionalMember "exclusiveMinimum" ExclusiveBound.toJson k.exclusiveMinimum ++
  optionalMember "exclusiveMaximum" ExclusiveBound.toJson k.exclusiveMaximum ++
  optionalMember "multipleOf" (.number <| .double ·) k.multipleOf ++
  optionalMember "enum" .array k.enumeration ++
  optionalMember "const" id k.constant ++
  optionalMember "default" id k.default ++
  optionalMember "examples" .array k.examples ++
  optionalMember "nullable" .bool k.nullable ++
  partsMember "required" (fun names => .array (names.map .string)) k.required ++
  optionalMember "minItems" Json.ofNat k.minItems ++
  optionalMember "maxItems" Json.ofNat k.maxItems

mutual

def Node.toJson (node : Node) : Json :=
  match node with
  | ⟨keywords, properties, items, oneOf, anyOf, allOf, definitions, defs⟩ =>
    Json.ofMembers (
      keywords.members ++
      partsMember "properties" .object (tableMembers properties) ++
      itemsMember items ++
      partsMember "oneOf" .array (listElements oneOf) ++
      partsMember "anyOf" .array (listElements anyOf) ++
      partsMember "allOf" .array (listElements allOf) ++
      partsMember "definitions" .object (tableMembers definitions) ++
      partsMember "$defs" .object (tableMembers defs))

def tableMembers : List (String × Node) → List (String × Json)
  | [] => []
  | (name, node) :: rest => (name, node.toJson) :: tableMembers rest

def listElements : List Node → List Json
  | [] => []
  | node :: rest => node.toJson :: listElements rest

def itemsMember : Option (Items Node) → List (String × Json)
  | none => []
  | some (.tuple positions) => [("items", .array (listElements positions))]
  | some (.single item) => [("items", item.toJson)]

end

def tableToJson (table : List (String × Node)) : Json := .object (tableMembers table)

end MockApi.Schema
