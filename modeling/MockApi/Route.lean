import MockApi.Route.Method
import MockApi.Route.Template
import MockApi.Schema.Document
import MockApi.Store

/-!
# Routes

A route answers the requests of one method whose path fits its template: with a fixed value, with a value
of a schema, or with what an action on a resource gives.
-/

namespace MockApi

inductive Action
  | list
  | get
  | create
  | replace
  | delete
deriving DecidableEq

structure Resource where
  document : Schema.Document
  label : String
  idKind : IdKind
  /-- The least and the greatest number of resources in a list. -/
  listMin : Nat
  listMax : Nat

inductive ResponseSource
  | literal (value : Json)
  | generated (document : Schema.Document)
  | computed (action : Action) (resource : Resource)

def ResponseSource.kind : ResponseSource → String
  | literal _ => "literal"
  | generated _ => "generated"
  | computed .. => "computed"

structure Route where
  method : Method
  path : String
  source : ResponseSource
  status : Nat := 200
  delay : Option Nat := none
  headers : Table String := []
  /-- What request bodies are checked against in strict mode. -/
  validation : Option Schema.Document := none

namespace Route

def ofPath (method : Method) (path : String) (source : ResponseSource) : Route :=
  { method, path := normalizePath path, source }

def template (r : Route) : Template := Template.parse r.path

/-- What the routes of a table differ in: the method, and the template written in the one way. -/
def key (r : Route) : Method × String := (r.method, r.template.text)

end Route

structure Request where
  method : Method
  path : String
  body : Option Json := none

end MockApi
