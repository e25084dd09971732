import MockApi.Error
import MockApi.Schema.Node.Decode
import MockApi.Schema.Node.Encode
import MockApi.Text.Parts

/-!
# Schema documents

A document is a root node and one table of named nodes, which the references inside it point to.
`Document.lookup` reads a reference, and `Document.resolvedRoot` follows those that start at the root.
-/

namespace MockApi.Schema

structure Document where
  root : Node
  definitions : List (String × Node) := []
  title : Option String := none

def rootKey : String := "#"

/-- A place in a document that references lead to: the root, or a definition. -/
inductive Place
  | root
  | definition (name : String)
deriving DecidableEq

/-- The key under which a place is remembered. A definition may have the key of the root. -/
def Place.key : Place → String
  | .root => rootKey
  | .definition name => name

inductive Target
  | internal (place : Place) (node : Node)
  | external
  | missing

def replacePair (a b replacement : Char) : List Char → List Char
  | x :: y :: rest =>
    if x = a ∧ y = b then replacement :: replacePair a b replacement rest
    else x :: replacePair a b replacement (y :: rest)
  | rest => rest

/-- The name that a segment of a pointer writes: `~1` stands for a slash, then `~0` for a tilde. -/
def unescapePointer (segment : List Char) : String :=
  String.ofList (replacePair '~' '0' '~' (replacePair '~' '1' '/' segment))

def definitionPrefixes : List String := ["#/definitions/", "#/$defs/", "#/components/schemas/"]

def definitionName? (pointer : String) : Option String :=
  (definitionPrefixes.findSome? fun start => Text.dropStart start.toList pointer.toList).map
    unescapePointer

namespace Document

def componentSchemas? (value : Json) : Option Json :=
  (value.member? "components").bind (·.member? "schemas")

/-- The document that a JSON schema describes. The definitions, the `$defs` and the schemas among the
components go into one table; of two under one name the later of these stays. -/
def ofJson (value : Json) : Except Error Document := do
  if !value.isObject then throw (.invalidSchema "schema document must be a JSON object")
  let components ← match componentSchemas? value with
    | none => pure []
    | some schemas => match Node.tableOfJson? schemas with
      | some table => pure table
      | none => throw (.invalidSchema "component schemas are not a table of schemas")
  match Node.ofJson? value with
  | none => throw (.invalidSchema "not a schema")
  | some node =>
    return {
      root := { node with definitions := [], defs := [] }
      definitions := Table.overlay (Table.overlay node.definitions node.defs) components
      title := node.title }

def ofNode (node : Node) : Document := { root := node, title := node.title }

def lookup (doc : Document) (pointer : String) : Target :=
  if !Text.startsWith pointer "#" then .external
  else if pointer = rootKey ∨ pointer = "#/" then .internal .root doc.root
  else match definitionName? pointer with
    | none => .missing
    | some name => match Table.get? doc.definitions name with
      | some node => .internal (.definition name) node
      | none => .missing

/-- References followed from a place, for at most `fuel` steps. A node that refers to itself is
the end. -/
def followFrom (doc : Document) (place : Place) (node : Node) : Nat → Node
  | 0 => node
  | fuel + 1 =>
    match node.reference.map doc.lookup with
    | some (.internal next target) =>
      if next = place then node else followFrom doc next target fuel
    | _ => node

def resolvedRoot (doc : Document) : Node :=
  doc.followFrom .root doc.root (doc.definitions.length + 1)

def toJson (doc : Document) : Json :=
  .ofMembers [("root", doc.root.toJson), ("definitions", tableToJson doc.definitions),
    ("title", match doc.title with
      | some title => .string title
      | none => .null)]

end Document

end MockApi.Schema
