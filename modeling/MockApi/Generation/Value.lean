import MockApi.Generation.Leaf
import MockApi.Schema.Document

/-!
# Values of a schema

A value is generated by one walk over a document. The walk goes at most `maxDepth` steps from a node to
its parts or along references; what lies deeper gets the value of `partialValue`. References that are being
followed are remembered by key, and one that is met again while it is being followed gives an empty
object.
-/

namespace MockApi.Generation

open Schema

structure Options where
  /-- The chance that a member that is not required is there. -/
  optionalProbability : Binary64
  maxDepth : Nat
  /-- Whether the first example of a node stands for it. -/
  useExamples : Bool

/-- The options as a text that differs when they differ. -/
def Options.fingerprint (o : Options) : String :=
  "p=" ++ Binary64.plainText o.optionalProbability ++ ";d=" ++ toString o.maxDepth ++ ";ex=" ++
    toString o.useExamples

def externalMarker : String := "<external-ref>"

def nullProbability : Binary64 := Binary64.ofRatio false Binary64.unitsPerOne 10

def untypedLength : Nat := 8

def elementLength : Nat := 6

/-- What the walk carries: the source, and the keys of the references that are being followed. -/
structure Walk (σ : Type) where
  source : σ
  following : List String

/-- A part of the walk. It may fail, and what it did before that stays done. -/
abbrev Walking (σ : Type) := ExceptT Fault (StateM (Walk σ))

structure Plan (σ : Type) where
  document : Document
  options : Options
  setting : Setting σ

namespace Walking

variable {σ α : Type}

def lift (g : Generate σ α) : Walking σ α := fun w =>
  let (result, source) := g w.source
  (result, { w with source })

def draw (d : Draw σ α) : Walking σ α := lift (drawn d)

def isFollowing (key : String) : Walking σ Bool := fun w => (.ok (w.following.contains key), w)

def following (key : String) (part : Walking σ α) : Walking σ α := fun w =>
  let (result, after) := part { w with following := key :: w.following }
  (result, { after with following := after.following.erase key })

end Walking

variable {σ : Type} [Source σ]

/-- Beyond the depth: the fixed value, the first of a list of values, a leaf, or an empty container. -/
def partialValue (plan : Plan σ) (node : Node) : Walking σ Json :=
  match node.driver with
  | .constant value => pure value
  | .enumeration first _ => pure first
  | .typed kind => .lift (leafDraw plan.setting kind node.toKeywords)
  | _ => pure (.object [])

def referenceValue (plan : Plan σ) (next : Node → Walking σ Json) (pointer : String) :
    Walking σ Json :=
  match plan.document.lookup pointer with
  | .internal place node => do
    if ← .isFollowing place.key then return .object []
    .following place.key (next node)
  | .external => pure (.string externalMarker)
  | .missing => throw (.danglingReference pointer)

/-- The values of all branches: the members of the objects among them, or the last value if there is no
object. -/
def mergeValues (values : List Json) : Json :=
  let objects := values.filterMap Json.asObject?
  if objects.isEmpty then values.getLast?.getD .null
  else .object (objects.foldl Table.overlay [])

def includesMember (plan : Plan σ) (node : Node) (name : String) : Walking σ Bool :=
  if node.isRequired name then pure true
  else .draw (Draw.chance plan.options.optionalProbability)

def memberValues (plan : Plan σ) (next : Node → Walking σ Json) (node : Node) :
    List (String × Node) → Walking σ (List (String × Json))
  | [] => pure []
  | (name, property) :: rest => do
    if ← includesMember plan node name then
      let value ← next property
      return (name, value) :: (← memberValues plan next node rest)
    memberValues plan next node rest

def elementValues (next : Node → Walking σ Json) (node : Node) : Walking σ (List Json) :=
  match node.items with
  | some (.tuple positions) => positions.mapM next
  | some (.single item) => do
    let (min, max) := itemBounds node.toKeywords
    -- the ends that the greatest count is kept between
    .draw (Draw.rely (.range min (Nat.max itemLimit min)))
    let count ← .draw (Draw.natBetween min max)
    (List.replicate count item).mapM next
  | none =>
    let count := Nat.min (node.minItems.getD 0) itemLimit
    (List.replicate count ()).mapM fun _ => do
      return .string (← .draw (fillerText elementLength))

def kindValue (plan : Plan σ) (next : Node → Walking σ Json) (node : Node) (kind : Kind) :
    Walking σ Json :=
  match kind with
  | .object => do return .object (← memberValues plan next node node.properties)
  | .array => do return .array (← elementValues next node)
  | leaf => .lift (leafDraw plan.setting leaf node.toKeywords)

/-- The value of one branch. -/
def branchValue (next : Node → Walking σ Json) : List Node → Walking σ Json
  | [] => do
    -- there is no branch to draw
    .draw (Draw.rely (.range 0 (-1)))
    return .object []
  | first :: rest => do next (← .draw (Draw.oneOf first rest))

def drivenValue (plan : Plan σ) (next : Node → Walking σ Json) (node : Node) : Walking σ Json :=
  match node.driver with
  | .reference pointer => referenceValue plan next pointer
  | .oneOf branches | .anyOf branches => branchValue next branches
  | .allOf branches => do return mergeValues (← branches.mapM next)
  | .constant value => pure value
  | .enumeration first rest => .draw (Draw.oneOf first rest)
  | .typed kind => kindValue plan next node kind
  | .union kinds =>
    match kinds.filter (· ≠ .null) with
    | [] => pure .null
    | first :: rest => do kindValue plan next node (← .draw (Draw.oneOf first rest))
  | .untyped =>
    match node.default with
    | some value => pure value
    | none => do return .string (← .draw (fillerText untypedLength))

def exampleOf (plan : Plan σ) (node : Node) : Option Json :=
  if plan.options.useExamples then node.examples.bind List.head? else none

def drawsNull (node : Node) : Walking σ Bool :=
  if node.isNullable then .draw (Draw.chance nullProbability) else pure false

/-- A value for a node, with `room` more steps to its parts. -/
def nodeValue (plan : Plan σ) : Nat → Node → Walking σ Json
  | 0, node => partialValue plan node
  | room + 1, node =>
    match exampleOf plan node with
    | some value => pure value
    | none => do
      if ← drawsNull node then return .null
      drivenValue plan (nodeValue plan room) node

def generate (plan : Plan σ) (node : Node) : Generate σ Json := fun source =>
  let (result, after) := nodeValue plan (plan.options.maxDepth + 1) node ⟨source, []⟩
  (result, after.source)

def generateMany (plan : Plan σ) (count : Nat) : Generate σ (List Json) :=
  (List.replicate count ()).mapM fun _ => generate plan plan.document.root

end MockApi.Generation
