import MockApi.Calendar
import MockApi.Generation.Format
import MockApi.Json
import MockApi.Random.Cipher
import MockApi.Schema.Node

/-!
# Store

Resources that are created get an identifier, and what happens to resources is counted. The resources
themselves are not kept.
-/

namespace MockApi

inductive IdKind
  | uuid
  | integer
  | text
deriving DecidableEq

namespace IdKind

def name : IdKind → String
  | uuid => "uuid"
  | integer => "integer"
  | text => "text"

def ofNode (node : Schema.Node) : IdKind :=
  match Table.get? node.properties "id" with
  | none => uuid
  | some id => match id.driver with
    | .typed .integer => integer
    | _ => if id.format.any (· ≠ "uuid") then text else uuid

end IdKind

structure Store where
  issued : Nat := 0
  created : Nat := 0
  updated : Nat := 0
  deleted : Nat := 0
deriving DecidableEq

namespace Store

/-- The next identifier. The random part of a UUID comes from a source of its own. -/
def nextId (s : Store) (kind : IdKind) (source : Cipher) : Store × Json × Cipher :=
  let n := s.issued + 1
  let s := { s with issued := n }
  match kind with
  | .uuid =>
    let (uuid, source) := (Generation.uuidText : Draw Cipher String) source
    (s, .string uuid, source)
  | .integer => (s, .ofNat n, source)
  | .text => (s, .string ("id-" ++ toString n), source)

def recordCreate (s : Store) : Store := { s with created := s.created + 1 }

def recordUpdate (s : Store) : Store := { s with updated := s.updated + 1 }

def recordDelete (s : Store) : Store := { s with deleted := s.deleted + 1 }

def toJson (s : Store) : Json :=
  .ofMembers [("issued_ids", .ofNat s.issued), ("created", .ofNat s.created),
    ("updated", .ofNat s.updated), ("deleted", .ofNat s.deleted)]

end Store

end MockApi
