import MockApi.Noun
import MockApi.Route.Table

/-!
# Derived routes

Five routes are derived for a resource: list and create on its collection, and get, replace and delete
on one item. The collection lies below a base path and is called by the plural of the noun.
-/

namespace MockApi

namespace Resource

def defaultNoun : String := "Resource"

/-- The noun: the name that is given, or the title, or the title of what the root refers to. -/
def noun (document : Schema.Document) (name : Option String) : String :=
  let noun := Text.trim
    ((name.or (document.title.or document.resolvedRoot.title)).getD "")
  if noun.isEmpty then defaultNoun else noun

def trimSlashes (path : String) : String :=
  String.ofList (path.toList.reverse.dropWhile (· = '/')).reverse

def collectionPath (basePath noun : String) : String :=
  trimSlashes basePath ++ "/" ++ Noun.slug noun

def itemPath (collection : String) : String := collection ++ "/\x7bid\x7d"

def serverMembers : List String := ["id", "createdAt", "updatedAt"]

/-- What request bodies are checked against: the resource, without asking for what the server sets. -/
def bodyDocument (document : Schema.Document) : Schema.Document :=
  let root := document.resolvedRoot
  { document with
    root := { root with required := root.required.filter (!serverMembers.contains ·) } }

/-- The resource of a document, with a noun and the sizes of its lists in either order. -/
def ofDocument (document : Schema.Document) (noun : String) (listMin listMax : Nat) : Resource where
  document
  label := Text.lower noun
  idKind := IdKind.ofNode document.resolvedRoot
  listMin := Nat.min listMin listMax
  listMax := Nat.max listMin listMax

def routes (resource : Resource) (collection : String) : List Route :=
  let body := some (bodyDocument resource.document)
  let item := itemPath collection
  [Route.ofPath .get collection (.computed .list resource),
    Route.ofPath .get item (.computed .get resource),
    { Route.ofPath .post collection (.computed .create resource) with
      status := 201, validation := body },
    { Route.ofPath .put item (.computed .replace resource) with validation := body },
    { Route.ofPath .delete item (.computed .delete resource) with status := 204 }]

def derivedRoutes (basePath : String) (listMin listMax : Nat) (document : Schema.Document)
    (name : Option String) : List Route :=
  let noun := noun document name
  (ofDocument document noun listMin listMax).routes (collectionPath basePath noun)

end Resource

end MockApi
