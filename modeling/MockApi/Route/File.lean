import MockApi.Files
import MockApi.Json.Reader
import MockApi.Route.Definition
import MockApi.Yaml.Reader

/-!
# Route files

A file with a list of route definitions, in YAML or else in JSON.
-/

namespace MockApi.RouteDefinition

def decodeText {α : Type} [Tree α] (format : String) (tree : Option α) :
    Except Error (List RouteDefinition) :=
  match tree.bind (Tree.listOf? ofTree?) with
  | some definitions => .ok definitions
  | none => .error (.ofField (format ++ " parse error: not a list of routes") "routes")

def listOfText (path text : String) : Except Error (List RouteDefinition) :=
  if Files.isYaml path then decodeText "YAML" (Yaml.read text)
  else decodeText "JSON" (Json.readRaw text)

def listOfFile (files : Files) (path : String) : Except Error (List RouteDefinition) :=
  match files.read path with
  | .error reason => .error (.ofField ("Failed to read routes file: " ++ reason) "routes")
  | .ok text => listOfText path text

end MockApi.RouteDefinition
