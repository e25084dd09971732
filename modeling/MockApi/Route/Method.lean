import MockApi.Error
import MockApi.Text.Parts

/-!
# Methods

The HTTP methods that a route may have.
-/

namespace MockApi

inductive Method
  | get
  | post
  | put
  | patch
  | delete
  | head
  | options
deriving DecidableEq

namespace Method

def all : List Method := [get, post, put, patch, delete, head, options]

def name : Method → String
  | get => "GET"
  | post => "POST"
  | put => "PUT"
  | patch => "PATCH"
  | delete => "DELETE"
  | head => "HEAD"
  | options => "OPTIONS"

def ofName? (s : String) : Option Method :=
  all.find? (·.name == Text.upperAscii (Text.trim s))

def parse (s : String) : Except Error Method :=
  match ofName? s with
  | some method => .ok method
  | none => .error (.unsupportedMethod s)

theorem ofName?_name (m : Method) : ofName? m.name = some m := by cases m <;> decide +kernel

end Method

end MockApi
