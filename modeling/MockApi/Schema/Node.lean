import MockApi.Schema.Kind

/-!
# Schema nodes

A node holds the keywords written at one place of a schema. Which of them decides what the node means
is its `Driver`: a reference, then a composition, then a fixed value, then a list of values, then the
type, declared or read off the other keywords.
-/

namespace MockApi.Schema

inductive TypeSet
  | single (kind : Kind)
  | union (kinds : List Kind)
deriving DecidableEq

def TypeSet.kinds : TypeSet → List Kind
  | .single kind => [kind]
  | .union kinds => kinds

inductive ExclusiveBound
  | flag (on : Bool)
  | value (x : Binary64.Finite)
deriving DecidableEq

inductive Items (α : Type)
  | tuple (positions : List α)
  | single (item : α)

/-- The keywords that do not hold nodes. -/
structure Keywords where
  type : Option TypeSet := none
  reference : Option String := none
  title : Option String := none
  description : Option String := none
  minLength : Option Nat := none
  maxLength : Option Nat := none
  pattern : Option String := none
  format : Option String := none
  minimum : Option Binary64.Finite := none
  maximum : Option Binary64.Finite := none
  exclusiveMinimum : Option ExclusiveBound := none
  exclusiveMaximum : Option ExclusiveBound := none
  multipleOf : Option Binary64.Finite := none
  enumeration : Option (List Json) := none
  constant : Option Json := none
  default : Option Json := none
  examples : Option (List Json) := none
  nullable : Option Bool := none
  required : List String := []
  minItems : Option Nat := none
  maxItems : Option Nat := none

structure Node extends Keywords where
  properties : List (String × Node) := []
  items : Option (Items Node) := none
  oneOf : List Node := []
  anyOf : List Node := []
  allOf : List Node := []
  definitions : List (String × Node) := []
  defs : List (String × Node) := []

/-- The keywords that decide what a node means. -/
inductive Driver
  | reference (pointer : String)
  | oneOf (branches : List Node)
  | anyOf (branches : List Node)
  | allOf (branches : List Node)
  | constant (value : Json)
  | enumeration (first : Json) (rest : List Json)
  | typed (kind : Kind)
  | union (kinds : List Kind)
  | untyped

namespace Node

instance : Inhabited Node := ⟨{}⟩

def ofKind (kind : Kind) : Node := { type := some (.single kind) }

/-- The kind that the keywords of a node without type speak of. -/
def inferredKind (node : Node) : Option Kind :=
  if !node.properties.isEmpty || !node.required.isEmpty then some .object
  else if node.items.isSome || node.minItems.isSome || node.maxItems.isSome then some .array
  else if node.minLength.isSome || node.maxLength.isSome || node.pattern.isSome ||
      node.format.isSome then some .string
  else if node.minimum.isSome || node.maximum.isSome || node.multipleOf.isSome ||
      node.exclusiveMinimum.isSome || node.exclusiveMaximum.isSome then some .number
  else none

def typeDriver (node : Node) : Driver :=
  match node.type with
  | some (.single kind) => .typed kind
  | some (.union [kind]) => .typed kind
  | some (.union (kind :: second :: kinds)) => .union (kind :: second :: kinds)
  | _ => match node.inferredKind with
    | some kind => .typed kind
    | none => .untyped

def driver (node : Node) : Driver :=
  match node.reference with
  | some pointer => .reference pointer
  | none =>
    if !node.oneOf.isEmpty then .oneOf node.oneOf
    else if !node.anyOf.isEmpty then .anyOf node.anyOf
    else if !node.allOf.isEmpty then .allOf node.allOf
    else match node.constant with
      | some value => .constant value
      | none => match node.enumeration with
        | some (first :: rest) => .enumeration first rest
        | _ => node.typeDriver

/-- Whether the node lets a value be null: by its own flag, or as one of several types. -/
def isNullable (node : Node) : Bool :=
  node.nullable.getD false ||
    match node.type with
    | some (.union kinds) => kinds.contains .null
    | _ => false

def isRequired (node : Node) (name : String) : Bool := node.required.contains name

/-! ### What a driver says of its node -/

theorem reference_of_driver {node : Node} {pointer : String} (h : node.driver = .reference pointer) :
    node.reference = some pointer := by
  unfold driver typeDriver at h
  repeat' split at h
  all_goals simp_all

theorem oneOf_of_driver {node : Node} {branches : List Node} (h : node.driver = .oneOf branches) :
    node.oneOf = branches := by
  unfold driver typeDriver at h
  repeat' split at h
  all_goals simp_all

theorem anyOf_of_driver {node : Node} {branches : List Node} (h : node.driver = .anyOf branches) :
    node.anyOf = branches := by
  unfold driver typeDriver at h
  repeat' split at h
  all_goals simp_all

theorem allOf_of_driver {node : Node} {branches : List Node} (h : node.driver = .allOf branches) :
    node.allOf = branches := by
  unfold driver typeDriver at h
  repeat' split at h
  all_goals simp_all

theorem oneOf_ne_nil {node : Node} {branches : List Node} (h : node.driver = .oneOf branches) :
    branches ≠ [] := by
  unfold driver typeDriver at h
  repeat' split at h
  all_goals simp_all

theorem anyOf_ne_nil {node : Node} {branches : List Node} (h : node.driver = .anyOf branches) :
    branches ≠ [] := by
  unfold driver typeDriver at h
  repeat' split at h
  all_goals simp_all

end Node

end MockApi.Schema
