import MockApi.Config.Decode
import MockApi.Route

/-!
# Route definitions

A route as a user writes it. The status may be spelled in three ways, and the body of the response is
either given or made from a schema.
-/

namespace MockApi

structure RouteDefinition where
  path : String
  method : String := "GET"
  response : Json := .null
  statusCode : Option Nat := none
  delay : Option Nat := none
  headers : Table String := []
  schema : Option Json := none
  validation : Option Json := none

namespace RouteDefinition

open Tree

variable {α : Type} [Tree α]

def ofTree? (tree : α) : Option RouteDefinition := do
  let fields ← record? [["path"], ["method"], ["response"], ["statusCode", "status_code", "status"],
    ["delay"], ["headers"], ["schema"], ["validation"]] tree
  let path ← (Table.get? fields "path").bind text?
  let method ← field fields "method" "GET" text?
  let response ← field fields "response" .null json?
  let statusCode ← optionField fields "statusCode" none Config.short?
  let delay ← optionField fields "delay" none Config.long?
  let headers ← field fields "headers" [] (tableOf? text?)
  let schema ← optionField fields "schema" none json?
  let validation ← optionField fields "validation" none json?
  return ⟨path, method, response, statusCode, delay, headers, schema, validation⟩

def toJson (d : RouteDefinition) : Json :=
  let optional {β : Type} (encode : β → Json) : Option β → Json
    | some x => encode x
    | none => .null
  .ofMembers [("path", .string d.path), ("method", .string d.method), ("response", d.response),
    ("statusCode", optional Json.ofNat d.statusCode), ("delay", optional Json.ofNat d.delay),
    ("headers", .object (d.headers.map fun (name, value) => (name, .string value))),
    ("schema", optional id d.schema), ("validation", optional id d.validation)]

def source (d : RouteDefinition) : Except Error ResponseSource :=
  match d.schema with
  | some schema => (Schema.Document.ofJson schema).map .generated
  | none => .ok (.literal d.response)

def toRoute (d : RouteDefinition) : Except Error Route := do
  let method ← Method.parse d.method
  if !Text.startsWith d.path "/" then
    throw (.ofField ("Route path must start with '/': " ++ d.path) "routes.path")
  let source ← d.source
  let validation ← match d.validation with
    | some schema => some <$> Schema.Document.ofJson schema
    | none => pure none
  return { Route.ofPath method d.path source with
    status := d.statusCode.getD 200, delay := d.delay, headers := d.headers, validation }

def toRoutes (definitions : List RouteDefinition) : Except Error (List Route) :=
  definitions.mapM toRoute

end RouteDefinition

end MockApi
