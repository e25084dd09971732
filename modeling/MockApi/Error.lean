import MockApi.Validation.Path

/-!
# Errors

Every cause for which a request, a configuration or a schema is refused, with its kind, its message,
the HTTP status that reports it, and the envelope that carries it in a response body.
-/

namespace MockApi

/-- A cause of failure. -/
inductive Error
  | configuration (message : String) (field : Option String)
  | unsupportedMethod (name : String)
  | danglingReference (pointer : String)
  | invalidSchema (detail : String)
  | validation (failure : Validation.Failure)
  | portInUse (port : Nat)
  | notRunning
  | handler (message : String)
  | injected (status : Nat) (message : String)
  | routeNotFound (method path : String)
  | invalidBody (detail : String)
  | internal (message : String)

namespace Error

def ofField (message field : String) : Error := .configuration message (some field)

def message : Error → String
  | configuration message _ => "Configuration error: " ++ message
  | unsupportedMethod name => "Unsupported HTTP method: " ++ name
  | danglingReference pointer => "Unresolvable $ref: " ++ pointer
  | invalidSchema detail => "Invalid schema: " ++ detail
  | validation failure =>
    "Validation failed at '" ++ failure.path ++ "': expected " ++ failure.expected
  | portInUse port => "Port " ++ toString port ++ " is already in use"
  | notRunning => "Server is not running"
  | handler message => "Handler error: " ++ message
  | injected _ message => message
  | routeNotFound method path => "Route not found: " ++ method ++ " " ++ path
  | invalidBody detail => "Invalid request body: " ++ detail
  | internal message => "Internal error: " ++ message

def kind : Error → String
  | configuration .. => "ConfigurationError"
  | unsupportedMethod _ => "ConfigurationError"
  | danglingReference _ => "RefResolutionError"
  | invalidSchema _ => "SchemaError"
  | validation _ => "ValidationError"
  | portInUse _ => "PortInUseError"
  | notRunning => "NotRunningError"
  | handler _ => "HandlerError"
  | injected .. => "ScenarioError"
  | routeNotFound .. => "NotFound"
  | invalidBody _ => "InvalidBodyError"
  | internal _ => "InternalError"

def isStatus (n : Nat) : Bool := decide (100 ≤ n) && decide (n ≤ 999)

def status : Error → Nat
  | validation _ | invalidBody _ => 400
  | routeNotFound .. => 404
  | portInUse _ | notRunning => 503
  | injected status _ => if isStatus status then status else 500
  | configuration .. | unsupportedMethod _ | danglingReference _ | invalidSchema _ | handler _
  | internal _ => 500

def details : Error → Option Json
  | validation failure => some <| .ofMembers [("field", .string failure.path),
      ("expected", .string failure.expected), ("actual", failure.actual)]
  | injected status _ => some <| .ofMembers [("status", .ofNat status)]
  | _ => none

def envelopeOf (kind message : String) (details : Option Json) : Json :=
  .ofMembers <| [("success", .bool false), ("error", .string kind), ("message", .string message)] ++
    match details with
    | some value => [("details", value)]
    | none => []

def envelope (e : Error) : Json := envelopeOf e.kind e.message e.details

end Error

end MockApi
