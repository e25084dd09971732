import Mathlib.Data.List.Forall2
import MockApi.Generation.Value
import MockApi.Proofs.Json.Table
import MockApi.Proofs.Validation.Satisfaction

/-!
# Schemas whose values fit, and objects put together

What a node may say so that the values generated for it satisfy it (`Supported`), which nodes a walk
comes to from it (`Child`, `Leads`), and where a walk may stop (`Bare`, `Generable`). Then the members that fill an
object node, and what becomes of them when the objects of several nodes are put into one: where no two nodes share a
property, the whole fills every one of them.
-/

namespace MockApi.Generation

open Schema Validation

/-- What a node may say about values of a kind. -/
inductive KindSupported (node : Node) : Kind → Prop
  | string (pattern : node.pattern = none) (format : node.format = none)
      (ordered : ∀ min max, node.minLength = some min → node.maxLength = some max → min ≤ max)
      (short : ∀ min, node.minLength = some min → min < unholdableLength) : KindSupported node .string
  | integer (minimum : node.minimum = none) (maximum : node.maximum = none)
      (exclusiveMinimum : node.exclusiveMinimum = none)
      (exclusiveMaximum : node.exclusiveMaximum = none) (multipleOf : node.multipleOf = none) :
      KindSupported node .integer
  | boolean : KindSupported node .boolean
  | null : KindSupported node .null
  | object (distinct : (Table.names node.properties).Nodup)
      (declared : ∀ name ∈ node.required, name ∈ Table.names node.properties) :
      KindSupported node .object
  | array (noTuple : ∀ positions, node.items ≠ some (.tuple positions))
      (ordered : ∀ min max, node.minItems = some min → node.maxItems = some max → min ≤ max)
      (short : ∀ min, node.minItems = some min → min ≤ itemLimit) : KindSupported node .array
  | tuple {positions : List Node} (items : node.items = some (.tuple positions))
      (enough : ∀ min, node.minItems = some min → min ≤ positions.length)
      (room : ∀ max, node.maxItems = some max → positions.length ≤ max) : KindSupported node .array

/-- The object node that a node is, or that its references lead to. None of them may be null. -/
inductive ObjectBehind (doc : Document) : Node → Node → Prop
  | here {node : Node} (driver : node.driver = .typed .object) (present : node.isNullable = false) :
      ObjectBehind doc node node
  | reference {node target object : Node} {pointer : String} {place : Place}
      (driver : node.driver = .reference pointer) (present : node.isNullable = false)
      (lookup : doc.lookup pointer = .internal place target)
      (behind : ObjectBehind doc target object) : ObjectBehind doc node object

/-- Two nodes stand for objects without a common property. -/
def Apart (doc : Document) (node other : Node) : Prop :=
  ∀ object object', ObjectBehind doc node object → ObjectBehind doc other object' →
    ∀ name ∈ Table.names object.properties, name ∉ Table.names object'.properties

/-- What a node may say. -/
inductive Supported (doc : Document) (node : Node) : Prop
  | internal {pointer : String} {place : Place} {target : Node}
      (driver : node.driver = .reference pointer)
      (lookup : doc.lookup pointer = .internal place target)
  | external {pointer : String} (driver : node.driver = .reference pointer)
      (lookup : doc.lookup pointer = .external)
  | anyOf {branches : List Node} (driver : node.driver = .anyOf branches)
  | allOf {branches : List Node} (driver : node.driver = .allOf branches)
      (objects : ∀ branch ∈ branches, ∃ object, ObjectBehind doc branch object)
      (apart : branches.Pairwise (Apart doc))
  | constant {value : Json} (driver : node.driver = .constant value)
  | enumeration {first : Json} {rest : List Json} (driver : node.driver = .enumeration first rest)
  | typed {kind : Kind} (driver : node.driver = .typed kind) (kindSupported : KindSupported node kind)
  | union {kinds : List Kind} (driver : node.driver = .union kinds)
      (kindsSupported : ∀ kind ∈ kinds, KindSupported node kind)
  | untyped (driver : node.driver = .untyped)

/-- Whether a node is for values of a kind. -/
def Takes (node : Node) (kind : Kind) : Prop :=
  node.driver = .typed kind ∨ ∃ kinds, node.driver = .union kinds ∧ kind ∈ kinds

/-- The nodes that a walk goes on to from a node. -/
inductive Child (doc : Document) (node : Node) : Node → Prop
  | reference {pointer : String} {place : Place} {target : Node}
      (driver : node.driver = .reference pointer)
      (lookup : doc.lookup pointer = .internal place target) : Child doc node target
  | anyOf {branches : List Node} {branch : Node} (driver : node.driver = .anyOf branches)
      (mem : branch ∈ branches) : Child doc node branch
  | allOf {branches : List Node} {branch : Node} (driver : node.driver = .allOf branches)
      (mem : branch ∈ branches) : Child doc node branch
  | property {name : String} {property : Node} (takes : Takes node .object)
      (mem : (name, property) ∈ node.properties) : Child doc node property
  | single {item : Node} (takes : Takes node .array) (items : node.items = some (.single item)) :
      Child doc node item
  | tuple {positions : List Node} {item : Node} (takes : Takes node .array)
      (items : node.items = some (.tuple positions)) (mem : item ∈ positions) : Child doc node item

/-- A walk comes from one node to another in so many steps. -/
inductive Leads (doc : Document) (start : Node) : Nat → Node → Prop
  | here : Leads doc start 0 start
  | step {steps : Nat} {node child : Node} (leads : Leads doc start steps node)
      (next : Child doc node child) : Leads doc start (steps + 1) child

/-- What stands for a node beyond the depth fits it. That is an empty array for an array, and an empty
object for whatever is neither a leaf nor a fixed value. -/
def Bare (doc : Document) (node : Node) : Prop :=
  match node.driver with
  | .constant _ | .enumeration _ _ => True
  | .typed .object => node.required = []
  | .typed .array => node.minItems.getD 0 = 0
  | .typed _ => True
  | _ => Satisfies doc node (.object [])

/-- Every node that a walk from the root comes to is supported, no walk comes back to such a node, and
those at which it is cut off are bare. -/
structure Generable (doc : Document) (maxDepth : Nat) : Prop where
  supported : ∀ steps node, Leads doc doc.root steps node → Supported doc node
  acyclic : ∀ steps back node, Leads doc doc.root steps node → ¬ Leads doc node (back + 1) node
  bare : ∀ node, Leads doc doc.root (maxDepth + 1) node → Bare doc node

end MockApi.Generation

namespace MockApi

namespace Generation

open Schema Validation

variable {doc : Document} {node object : Node}

/-- What members for some properties are like, of which some are asked for. -/
structure Members (doc : Document) (asked : List String) (properties : List (String × Node))
    (members : List (String × Json)) : Prop where
  distinct : (Table.names members).Nodup
  declared : ∀ name ∈ Table.names members, name ∈ Table.names properties
  required : ∀ name ∈ asked, name ∈ Table.names properties → Table.has members name = true
  fits : ∀ name property, (name, property) ∈ properties →
    ∀ member, Table.get? members name = some member → Satisfies doc property member

/-- The members fill an object node: they are declared, those that are required are there, and each
satisfies its property. -/
structure Fills (doc : Document) (object : Node) (members : List (String × Json)) : Prop
    extends Members doc object.required object.properties members where
  whole : ∀ name ∈ object.required, name ∈ Table.names object.properties

theorem Fills.has {members : List (String × Json)} {name : String} (fills : Fills doc object members)
    (mem : name ∈ object.required) : Table.has members name = true :=
  fills.required name mem (fills.whole name mem)

theorem Fills.meets {members : List (String × Json)} (fills : Fills doc object members) :
    KindMeets (fun _ => Satisfies doc) object .object (.object members) :=
  .object (fun _ mem => fills.has mem) fills.fits

theorem Fills.nil (required : object.required = []) : Fills doc object [] where
  distinct := .nil
  declared _ mem := by cases mem
  required name mem := by
    rw [required] at mem
    cases mem
  fits _ _ _ _ found := by cases found
  whole name mem := by
    rw [required] at mem
    cases mem

/-- The value satisfies the node, and where the node stands for an object its members fill it. -/
structure Fit (doc : Document) (node : Node) (value : Json) : Prop where
  satisfies : Satisfies doc node value
  fills : ∀ object, ObjectBehind doc node object → ∃ members, value = .object members ∧
    Fills doc object members

/-- What an object node asks of an object, a node that leads to it asks too. -/
theorem ObjectBehind.satisfies {members : List (String × Json)} (behind : ObjectBehind doc node object)
    (meets : KindMeets (fun _ => Satisfies doc) object .object (.object members)) :
    Satisfies doc node (.object members) := by
  induction behind with
  | here driver present => exact satisfies_iff.mpr (.typed driver meets)
  | reference driver present lookup behind ih =>
    exact satisfies_iff.mpr (.internal driver lookup (ih meets))

theorem ObjectBehind.isNullable (behind : ObjectBehind doc node object) : node.isNullable = false := by
  cases behind with
  | here driver present => exact present
  | reference driver present lookup behind => exact present

theorem ObjectBehind.eq_of_typed {kind : Kind} (behind : ObjectBehind doc node object)
    (driver : node.driver = .typed kind) : kind = .object ∧ object = node := by
  cases behind with
  | here driver' present => exact ⟨by cases driver.symm.trans driver'; rfl, rfl⟩
  | reference driver' present lookup behind => cases driver.symm.trans driver'

/-- Only a node of an object type or a reference stands for an object. -/
theorem ObjectBehind.driver (behind : ObjectBehind doc node object) :
    node.driver = .typed .object ∨ ∃ pointer, node.driver = .reference pointer := by
  cases behind with
  | here driver present => exact .inl driver
  | reference driver present lookup behind => exact .inr ⟨_, driver⟩

theorem Apart.symm {node other : Node} (apart : Apart doc node other) : Apart doc other node :=
  fun object object' behind behind' name mem mem' => apart object' object behind' behind name mem' mem

/-! ### Several objects in one -/

/-- A branch, and the members generated for it. -/
abbrev Piece := Node × List (String × Json)

/-- Where every branch stands for an object, the values are objects that fill them. -/
theorem pieces_of_fit {branches : List Node} {values : List Json}
    (fit : List.Forall₂ (Fit doc) branches values)
    (objects : ∀ branch ∈ branches, ∃ object, ObjectBehind doc branch object) :
    ∃ pieces : List Piece, branches = pieces.map (·.1) ∧ values = pieces.map (.object ·.2) ∧
      ∀ piece ∈ pieces, ∀ object, ObjectBehind doc piece.1 object → Fills doc object piece.2 := by
  induction fit with
  | nil => exact ⟨[], rfl, rfl, nofun⟩
  | @cons branch value branches values fit _ ih =>
    obtain ⟨pieces, rfl, rfl, fills⟩ := ih fun b mem => objects b (List.mem_cons_of_mem _ mem)
    obtain ⟨object, behind⟩ := objects branch List.mem_cons_self
    obtain ⟨members, rfl, -⟩ := fit.fills object behind
    refine ⟨(branch, members) :: pieces, rfl, rfl, ?_⟩
    rintro piece mem object behind
    rcases List.mem_cons.mp mem with rfl | later
    · obtain ⟨members', same, fills⟩ := fit.fills object behind
      cases same
      exact fills
    · exact fills piece later object behind

theorem mergeValues_objects {pieces : List Piece} (some_piece : pieces ≠ []) :
    mergeValues (pieces.map (.object ·.2)) = .object ((pieces.map (·.2)).foldl Table.overlay []) := by
  have objects : (pieces.map fun piece => Json.object piece.2).filterMap Json.asObject? =
      pieces.map (·.2) := by
    simp [Function.comp_def, Json.asObject?]
  unfold mergeValues
  rw [objects, if_neg (by simpa using some_piece)]

/-- Under a name that a branch declares the whole has what that branch has. -/
theorem get?_merged {pieces : List Piece} {piece : Piece} {name : String}
    (fills : ∀ piece ∈ pieces, ∃ object, ObjectBehind doc piece.1 object ∧ Fills doc object piece.2)
    (apart : (pieces.map (·.1)).Pairwise (Apart doc)) (mem : piece ∈ pieces)
    (behind : ObjectBehind doc piece.1 object) (declared : name ∈ Table.names object.properties) :
    Table.get? ((pieces.map (·.2)).foldl Table.overlay []) name = Table.get? piece.2 name := by
  obtain ⟨before, after, rfl⟩ := List.append_of_mem mem
  have distinct (other : Piece) (mem : other ∈ before ++ piece :: after) :
      (Table.names other.2).Nodup := by
    obtain ⟨object, -, fills⟩ := fills other mem
    exact fills.distinct
  have absent (other : Piece) (mem : other ∈ before ++ piece :: after)
      (apart : Apart doc piece.1 other.1) : Table.get? other.2 name = none := by
    obtain ⟨object', behind', fills⟩ := fills other mem
    exact Table.get?_eq_none_iff.mpr fun listed =>
      apart object object' behind behind' name declared (fills.declared name listed)
  rw [List.map_append, List.map_cons, List.pairwise_append, List.pairwise_cons] at apart
  obtain ⟨-, ⟨behind_apart, -⟩, before_apart⟩ := apart
  rw [List.map_append, List.map_cons, List.foldl_append, List.foldl_cons, Table.get?_foldl_overlay,
    Table.get?_overlay (distinct piece (by simp)), Table.get?_foldl_overlay]
  · exact Option.or_none
  · intro table listed
    obtain ⟨other, mem, rfl⟩ := List.mem_map.mp listed
    exact distinct other (by simp [mem])
  · intro table listed
    obtain ⟨other, mem, rfl⟩ := List.mem_map.mp listed
    refine absent other (by simp [mem]) (Apart.symm ?_)
    exact before_apart _ (List.mem_map_of_mem mem) _ (by simp)
  · intro table listed
    obtain ⟨other, mem, rfl⟩ := List.mem_map.mp listed
    exact distinct other (by simp [mem])
  · intro table listed
    obtain ⟨other, mem, rfl⟩ := List.mem_map.mp listed
    exact absent other (by simp [mem]) (behind_apart _ (List.mem_map_of_mem mem))

/-- The objects of branches that share no property, put into one, satisfy every branch. -/
theorem satisfies_mergeValues {branches : List Node} {values : List Json}
    (fit : List.Forall₂ (Fit doc) branches values)
    (objects : ∀ branch ∈ branches, ∃ object, ObjectBehind doc branch object)
    (apart : branches.Pairwise (Apart doc)) {branch : Node} (mem : branch ∈ branches) :
    Satisfies doc branch (mergeValues values) := by
  obtain ⟨pieces, rfl, rfl, fills⟩ := pieces_of_fit fit objects
  obtain ⟨piece, mem_piece, rfl⟩ := List.mem_map.mp mem
  obtain ⟨object, behind⟩ := objects piece.1 mem
  have filled := fills piece mem_piece object behind
  have merged {name : String} (declared : name ∈ Table.names object.properties) :=
    get?_merged (fun piece mem => by
      obtain ⟨object, behind⟩ := objects piece.1 (List.mem_map_of_mem mem)
      exact ⟨object, behind, fills piece mem object behind⟩) apart mem_piece behind declared
  rw [mergeValues_objects (List.ne_nil_of_mem mem_piece)]
  refine behind.satisfies (.object ?_ ?_)
  · intro name required
    rw [Table.has, merged (filled.whole name required)]
    exact filled.has required
  · intro name property listed member found
    rw [merged (List.mem_map_of_mem listed)] at found
    exact filled.fits name property listed member found

end Generation

end MockApi
