import MockApi.Generation.Compiler
import MockApi.Route.Resource

/-!
# Bodies of responses

The body of a response is made from the source of its route, with the compiler and the store of a
session. A body is made in steps, because creating a resource takes three: the members are found, an
identifier is issued, and the creation is counted. Everything that can fail comes before the first change
to the store.
-/

namespace MockApi

open Generation

/-- What bodies are made with: the compiler, the store, and a source for random identifiers. -/
structure Backend where
  compiler : Compiler
  store : Store := {}
  entropy : Cipher

inductive Making
  /-- A new resource that waits for its identifier. -/
  | minting (resource : Resource) (members : Table Json)
  /-- A new resource that waits to be counted. -/
  | counting (resource : Resource) (members : Table Json)
  | made (result : Except Error Json)

namespace Backend

def kindName : Json → String
  | .null => "null"
  | .bool _ => "boolean"
  | .number _ => "number"
  | .string _ => "string"
  | .array _ => "array"
  | .object _ => "object"

def bodyMembers : Json → Except Error (Table Json)
  | .object members => .ok members
  | other => .error (.invalidBody ("expected a JSON object, got " ++ kindName other))

/-- The identifier in the path; an empty text if the path has none. -/
def pathId (params : Table String) : String := (Table.get? params "id").getD ""

def success (message : String) (rest : List (String × Json)) : Json :=
  .ofMembers ([("success", .bool true), ("message", .string message)] ++ rest)

/-! ### Actions -/

def listDraw {σ : Type} [Source σ] (plan : Plan σ) (r : Resource) : Generate σ (List Json) := do
  let count ← drawn (Draw.natBetween r.listMin r.listMax)
  (List.replicate count ()).mapM fun _ => generate plan r.document.root

def listBody (r : Resource) (items : List Json) : Json :=
  success ("Retrieved " ++ toString items.length ++ " " ++ Noun.pluralize r.label)
    [("data", .array items), ("count", .ofNat items.length)]

def withId (id : String) : Json → Json
  | .object members => .object (Table.insert members "id" (.string id))
  | value => value

def getBody (r : Resource) (id : String) (value : Json) : Json :=
  success ("Retrieved " ++ r.label ++ " " ++ id) [("data", withId id value)]

def replacedMembers (id : String) (now : Instant) (members : Table Json) : Table Json :=
  Table.insert (Table.insert members "id" (.string id)) "updatedAt" (.string now.milliText)

def createdMembers (id : Json) (now : Instant) (members : Table Json) : Table Json :=
  Table.insert (Table.insert (Table.insert members "id" id)
    "createdAt" (.string now.milliText)) "updatedAt" (.string now.milliText)

def compiled {α β : Type} (b : Backend) (result : Compiler × Except Fault α) (f : α → β) :
    Backend × Except Error β :=
  ({ b with compiler := result.1 }, (result.2.mapError Fault.toError).map f)

/-- The members that a new resource starts with: those of the request, or of a compiled value. -/
def newMembers (b : Backend) (now : Instant) (r : Resource) (body : Option Json) :
    Backend × Except Error (Table Json) :=
  match body with
  | some body => (b, bodyMembers body)
  | none => b.compiled (b.compiler.compile now r.document) fun value =>
      (Json.asObject? value).getD []

def begin (b : Backend) (now : Instant) (source : ResponseSource) (params : Table String)
    (body : Option Json) : Backend × Making :=
  match source with
  | .literal value => (b, .made (.ok value))
  | .generated document =>
    let (b, result) := b.compiled (b.compiler.compile now document) id
    (b, .made result)
  | .computed .list r =>
    let plan : Plan Cipher := b.compiler.plan now r.document
    let (b, result) := b.compiled (b.compiler.run (listDraw plan r)) (listBody r)
    (b, .made result)
  | .computed .get r =>
    let (b, result) := b.compiled (b.compiler.compile now r.document) (getBody r (pathId params))
    (b, .made result)
  | .computed .create r =>
    match b.newMembers now r body with
    | (b, .ok members) => (b, .minting r members)
    | (b, .error e) => (b, .made (.error e))
  | .computed .replace r =>
    match (body.map bodyMembers).getD (.ok []) with
    | .error e => (b, .made (.error e))
    | .ok members =>
      let id := pathId params
      ({ b with store := b.store.recordUpdate }, .made <| .ok <|
        success ("Updated " ++ r.label ++ " " ++ id)
          [("data", .object (replacedMembers id now members))])
  | .computed .delete r =>
    ({ b with store := b.store.recordDelete }, .made <| .ok <|
      success ("Deleted " ++ r.label ++ " " ++ pathId params) [])

def advance (b : Backend) (now : Instant) : Making → Backend × Making
  | .minting r members =>
    let (store, id, entropy) := b.store.nextId r.idKind b.entropy
    ({ b with store, entropy }, .counting r (createdMembers id now members))
  | .counting r members =>
    ({ b with store := b.store.recordCreate }, .made <| .ok <|
      success ("Created " ++ r.label) [("data", .object members)])
  | .made result => (b, .made result)

def respond (b : Backend) (now : Instant) (source : ResponseSource) (params : Table String)
    (body : Option Json) : Backend × Except Error Json :=
  let (b, making) := b.begin now source params body
  let (b, making) := b.advance now making
  match b.advance now making with
  | (b, .made result) => (b, result)
  | (b, _) => (b, .error (.internal "unfinished"))

end Backend

end MockApi
