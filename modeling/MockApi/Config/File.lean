import MockApi.Config.Decode
import MockApi.Files
import MockApi.Json.Reader
import MockApi.Toml.Reader
import MockApi.Yaml.Reader

/-!
# Configuration files

A configuration may be written in YAML, TOML or JSON. Its file is read, and then it has to pass its
checks.
-/

namespace MockApi.Config

def refuseText {α : Type} (format : String) : Except Error α :=
  .error (.ofField (format ++ " parse error: not a configuration") "file")

def decodeText {α : Type} [Tree α] (format : String) (tree : Option α) : Except Error Config :=
  match tree.bind ofTree? with
  | some config => .ok config
  | none => refuseText format

def ofText (path text : String) : Except Error Config :=
  if Files.isYaml path then decodeText "YAML" (Yaml.read text)
  else match Files.extension? path with
    | some "toml" => decodeText "TOML" (Toml.read text)
    | some "json" => decodeText "JSON" (Json.readRaw text)
    | _ => refuse "file" "Unsupported config file format. Use .yaml, .toml, or .json"

def ofFile (files : Files) (path : String) : Except Error Config := do
  match files.read path with
  | .error reason => throw (.configuration ("Failed to read config file: " ++ reason) none)
  | .ok text =>
    let config ← ofText path text
    config.validate
    return config

end MockApi.Config
