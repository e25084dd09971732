import MockApi.Cache
import MockApi.Schema.Document

/-!
# Prepared schemas

Reading a schema gives a document, which is remembered under the text of the schema and the options it
is used with. A schema that is refused is not remembered.
-/

namespace MockApi.Schema

/-- What a prepared schema is remembered under: equal for the same schema with the same options. -/
structure StructuralKey where
  schema : String
  options : String
deriving DecidableEq

def structuralKey (schema : Json) (options : String) : StructuralKey := ⟨schema.compact, options⟩

/-- A document, with the number of the reading that it comes from. Two results with one number are one
shared document. -/
structure Prepared where
  document : Document
  number : Nat

structure Library where
  cache : Cache StructuralKey Prepared
  readings : Nat

namespace Library

def empty (capacity : Nat) (ttl : Option Nat) : Library := ⟨Cache.empty capacity ttl, 0⟩

def prepare (l : Library) (now : Nat) (options : String) (schema : Json) :
    Library × Except Error Prepared :=
  let built := (Document.ofJson schema).map (⟨·, l.readings⟩)
  let (cache, result) := l.cache.getOrBuild now (structuralKey schema options) built
  let isNew := match result with
    | .ok prepared => prepared.number == l.readings
    | .error _ => false
  (⟨cache, if isNew then l.readings + 1 else l.readings⟩, result)

/-! ### The steps of a preparation -/

def consult (l : Library) (now : Nat) (key : StructuralKey) : Library × Option Prepared :=
  let found := l.cache.get now key
  ({ l with cache := found.1 }, found.2)

/-- A schema is read, which touches nothing that is remembered. -/
def read (l : Library) (schema : Json) : Library × Except Error Prepared :=
  match Document.ofJson schema with
  | .ok document => ({ l with readings := l.readings + 1 }, .ok ⟨document, l.readings⟩)
  | .error e => (l, .error e)

def remember (l : Library) (now : Nat) (key : StructuralKey) (prepared : Prepared) : Library :=
  { l with cache := l.cache.set now key prepared }

end Library

end MockApi.Schema
