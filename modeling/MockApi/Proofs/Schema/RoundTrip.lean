import MockApi.Proofs.Json.Table
import MockApi.Validation

/-!
# Nodes are read back

A node that was read from JSON is read back from what it is written as (`ofJson?_toJson_of_read`). Each
keyword is written under a name of its own and found there again; the only values that writing loses are
nulls under `const` and `default`, and no node that was read has these.
-/

namespace MockApi

namespace Json

variable {α β : Type} {encode : α → Json} {decode : Json → Option α}

/-- Elements that are restored one by one are restored as a list. -/
theorem mapM_eq_some {restore : β → Option β} {xs : List β}
    (restores : ∀ x ∈ xs, restore x = some x) : xs.mapM restore = some xs := by
  induction xs with
  | nil => rfl
  | cons x xs ih =>
    rw [List.mapM_cons, restores x List.mem_cons_self,
      ih fun y mem => restores y (List.mem_cons_of_mem x mem)]
    rfl

/-- A field that may be absent is read back if no value of it is written as null. -/
theorem optionalField_map (restores : ∀ x, decode (encode x) = some x)
    (present : ∀ x, encode x ≠ .null) (value : Option α) :
    optionalField decode (value.map encode) = some value := by
  cases value with
  | none => rfl
  | some x =>
    rw [Option.map_some, optionalField, restores]
    · rfl
    · exact present x

theorem optionalField_of_ne_null {value : Option Json} (present : value ≠ some .null) :
    optionalField some value = some value := by
  unfold optionalField
  split
  · rfl
  · contradiction
  · rfl

/-- What may be absent is never read as null. -/
theorem ne_null_of_optionalField {field value : Option Json}
    (read : optionalField some field = some value) : value ≠ some .null := by
  unfold optionalField at read
  split at read
  · cases read
    nofun
  · cases read
    nofun
  · rename_i present
    cases read
    simpa using present

theorem asListOf?_map (restores : ∀ x, decode (encode x) = some x) (xs : List α) :
    asListOf? decode (.array (xs.map encode)) = some xs := by
  rw [asListOf?, asArray?, Option.bind_some, List.mapM_map]
  exact mapM_eq_some fun x _ => restores x

theorem asString?_string (s : String) : asString? (.string s) = some s := rfl

theorem asBool?_bool (b : Bool) : asBool? (.bool b) = some b := rfl

theorem asArray?_array (elements : List Json) : asArray? (.array elements) = some elements := rfl

theorem asNat?_ofNat (n : Nat) : asNat? (ofNat n) = some n := by
  simp [asNat?, ofNat]

theorem asDouble?_double (x : Binary64.Finite) : asDouble? (.number (.double x)) = some x := by
  simp [asDouble?, Number.toBinary64]

end Json

namespace Schema

open Json (optionalField plainField optionalField_map)

variable {α β : Type} {node : Node}

/-! ### Values of keywords -/

theorem Kind.ofJson?_name (kind : Kind) : ofJson? (.string kind.name) = some kind :=
  ofName?_name kind

theorem TypeSet.ofJson?_toJson (type : TypeSet) : ofJson? type.toJson = some type := by
  cases type with
  | single kind => simp [toJson, ofJson?, Kind.ofJson?, Kind.ofName?_name]
  | union kinds =>
    simp only [toJson, ofJson?, Kind.ofJson?, Json.asListOf?_map Kind.ofJson?_name, Option.map_some]

theorem TypeSet.toJson_ne_null (type : TypeSet) : type.toJson ≠ .null := by
  cases type <;> nofun

theorem ExclusiveBound.ofJson?_toJson (bound : ExclusiveBound) : ofJson? bound.toJson = some bound := by
  cases bound <;> rfl

theorem ExclusiveBound.toJson_ne_null (bound : ExclusiveBound) : bound.toJson ≠ .null := by
  cases bound <;> nofun

/-! ### Members -/

theorem get?_optionalMember (name : String) (encode : α → Json) (value : Option α) (other : String) :
    Table.get? (Table.ofList (optionalMember name encode value)) other =
      if name = other then value.map encode else none := by
  cases value <;> simp [optionalMember, Table.ofList, Table.overlay, Table.insert, Table.get?]

/-- How a list that is left out when it is empty is written. -/
def partsValue (encode : List α → Json) (parts : List α) : Option Json :=
  if parts.isEmpty then none else some (encode parts)

theorem get?_partsMember (name : String) (encode : List α → Json) (parts : List α) (other : String) :
    Table.get? (Table.ofList (partsMember name encode parts)) other =
      if name = other then partsValue encode parts else none := by
  cases parts <;>
    simp [partsMember, partsValue, Table.ofList, Table.overlay, Table.insert, Table.get?]

theorem plainField_partsValue {encode : List α → Json} {decode : Json → Option (List α)}
    {parts : List α} (restores : decode (encode parts) = some parts) :
    plainField [] decode (partsValue encode parts) = some parts := by
  cases parts with
  | nil => rfl
  | cons => exact restores

def Items.toJson : Items Node → Json
  | .tuple positions => .array (listElements positions)
  | .single item => item.toJson

def Items.nodes : Items Node → List Node
  | .tuple positions => positions
  | .single item => [item]

theorem itemsMember_eq (items : Option (Items Node)) :
    itemsMember items = optionalMember "items" Items.toJson items := by
  unfold itemsMember
  split <;> rfl

namespace Node

/-- The members that a node is written as. -/
def members (node : Node) : List (String × Json) :=
  node.toKeywords.members ++
  partsMember "properties" .object (tableMembers node.properties) ++
  itemsMember node.items ++
  partsMember "oneOf" .array (listElements node.oneOf) ++
  partsMember "anyOf" .array (listElements node.anyOf) ++
  partsMember "allOf" .array (listElements node.allOf) ++
  partsMember "definitions" .object (tableMembers node.definitions) ++
  partsMember "$defs" .object (tableMembers node.defs)

theorem toJson_eq (node : Node) : node.toJson = .object (Table.ofList node.members) := by
  cases node
  simp [toJson, members, Json.ofMembers]

/-- The member under a name in what a node is written as. -/
def written? (node : Node) : String → Option Json := Table.get? (Table.ofList node.members)

/-- Keywords are read back, unless one of them is a null that stands for its absence. -/
theorem keywordsOf?_written? (constant : node.constant ≠ some .null)
    (default : node.default ≠ some .null) : keywordsOf? node.written? = some node.toKeywords := by
  have types := optionalField_map TypeSet.ofJson?_toJson TypeSet.toJson_ne_null
  have bounds := optionalField_map ExclusiveBound.ofJson?_toJson ExclusiveBound.toJson_ne_null
  have naturals := optionalField_map Json.asNat?_ofNat nofun
  have doubles := optionalField_map Json.asDouble?_double fun _ => by simp
  have strings := optionalField_map Json.asString?_string nofun
  have flags := optionalField_map Json.asBool?_bool nofun
  have lists := optionalField_map Json.asArray?_array nofun
  have names : plainField [] (Json.asListOf? Json.asString?)
      (partsValue (fun names => .array (names.map .string)) node.required) = some node.required :=
    plainField_partsValue (Json.asListOf?_map Json.asString?_string node.required)
  unfold keywordsOf? written? members Keywords.members
  simp only [Table.get?_ofList_append, get?_optionalMember, get?_partsMember, itemsMember_eq,
    String.reduceEq, if_true, if_false, Option.or_none, Option.none_or, Option.map_id, id, types, strings, flags,
    lists, naturals, doubles, bounds, names, Json.optionalField_of_ne_null constant,
    Json.optionalField_of_ne_null default]
  rfl

/-- The node is read back from what it is written as. -/
def Restored (node : Node) : Prop := ofJson? node.toJson = some node

end Node

/-! ### Views of what is written -/

@[simp] theorem View.json_ofJson (value : Json) : (View.ofJson value).json = value := by
  cases value <;> simp [View.ofJson]

theorem View.ofElements_eq (elements : List Json) : ofElements elements = elements.map ofJson := by
  induction elements with
  | nil => rfl
  | cons x rest ih => rw [ofElements, ih, List.map_cons]

theorem View.ofMembers_eq (members : List (String × Json)) :
    ofMembers members = members.map fun entry => (entry.1, ofJson entry.2) := by
  induction members with
  | nil => rfl
  | cons entry rest ih => rw [ofMembers, ih, List.map_cons]

theorem listElements_eq (nodes : List Node) : listElements nodes = nodes.map Node.toJson := by
  induction nodes with
  | nil => simp [listElements]
  | cons node rest ih => rw [listElements, ih, List.map_cons]

theorem tableMembers_eq (table : List (String × Node)) :
    tableMembers table = table.map fun entry => (entry.1, entry.2.toJson) := by
  induction table with
  | nil => simp [tableMembers]
  | cons entry rest ih => rw [tableMembers, ih, List.map_cons]

theorem View.list_written {nodes : List Node} (restored : ∀ node ∈ nodes, node.Restored) :
    (View.ofJson (.array (listElements nodes))).list = some nodes := by
  show View.nodes? (View.ofElements (listElements nodes)) = some nodes
  rw [nodes?, ofElements_eq, listElements_eq, List.mapM_map, List.mapM_map]
  exact Json.mapM_eq_some restored

theorem View.table_written {table : List (String × Node)}
    (restored : ∀ entry ∈ table, entry.2.Restored) :
    (View.ofJson (.object (tableMembers table))).table = some table := by
  show View.namedNodes? (View.ofMembers (tableMembers table)) = some table
  rw [namedNodes?, ofMembers_eq, tableMembers_eq, List.mapM_map, List.mapM_map]
  refine Json.mapM_eq_some fun entry mem => ?_
  exact congrArg (Option.map (entry.1, ·)) (restored entry mem)

theorem View.items?_written {items : Items Node} (restored : ∀ node ∈ items.nodes, node.Restored) :
    (View.ofJson items.toJson).items? = some items := by
  cases items with
  | tuple positions =>
    have list : (View.ofJson (.array (listElements positions))).list = some positions :=
      list_written restored
    rw [Items.toJson, items?, list]
  | single item =>
    have node : (View.ofJson item.toJson).node = some item := restored item List.mem_cons_self
    have list : (View.ofJson item.toJson).list = none := by
      rw [item.toJson_eq]
      rfl
    rw [Items.toJson, items?, list, node]
    rfl

namespace Node

theorem partsField_written {part : View → Option (List α)} {encode : List β → Json} {parts : List α}
    {values : List β} (empty : values = [] → parts = [])
    (restores : part (View.ofJson (encode values)) = some parts) :
    partsField part ((partsValue encode values).map View.ofJson) = some parts := by
  cases values with
  | nil => rw [empty rfl]; rfl
  | cons => exact restores

theorem listField_written {nodes : List Node} (restored : ∀ node ∈ nodes, node.Restored) :
    partsField View.list ((partsValue .array (listElements nodes)).map View.ofJson) = some nodes :=
  partsField_written (by simp [listElements_eq]) (View.list_written restored)

theorem tableField_written {table : List (String × Node)}
    (restored : ∀ node ∈ table.map (·.2), node.Restored) :
    partsField View.table ((partsValue .object (tableMembers table)).map View.ofJson) = some table :=
  partsField_written (by simp [tableMembers_eq])
    (View.table_written fun _ mem => restored _ (List.mem_map_of_mem mem))

theorem itemsField_written {items : Option (Items Node)}
    (restored : ∀ stated ∈ items, ∀ node ∈ stated.nodes, node.Restored) :
    itemsField ((items.map Items.toJson).map View.ofJson) = some items := by
  cases items with
  | none => rfl
  | some items =>
    have present : items.toJson.isNull = false := by
      cases items with
      | tuple => rfl
      | single item => rw [Items.toJson, item.toJson_eq]; rfl
    have read : (View.ofJson items.toJson).items? = some items :=
      View.items?_written (restored items rfl)
    simp only [Option.map_some, itemsField, View.json_ofJson, present, read]
    rfl

/-- The nodes that stand in a node. -/
def parts (node : Node) : List Node :=
  node.properties.map (·.2) ++ (node.items.map Items.nodes).getD [] ++ node.oneOf ++ node.anyOf ++
    node.allOf ++ node.definitions.map (·.2) ++ node.defs.map (·.2)

/-- A node is read back if the nodes in it are. -/
theorem Restored.of_parts (constant : node.constant ≠ some .null) (default : node.default ≠ some .null)
    (restored : ∀ part ∈ node.parts, part.Restored) : node.Restored := by
  have field (name : String) :
      Table.get? (View.ofMembers (Table.ofList node.members)) name =
        (node.written? name).map View.ofJson := by
    rw [View.ofMembers_eq, Table.get?_map]
    rfl
  have keywords : keywordsOf? (fun name => ((node.written? name).map View.ofJson).map View.json) =
      some node.toKeywords := by
    simp only [Option.map_map, Function.comp_def, View.json_ofJson, Option.map_id']
    exact keywordsOf?_written? constant default
  simp only [parts, List.mem_append, or_imp, forall_and] at restored
  obtain ⟨⟨⟨⟨⟨⟨properties, items⟩, oneOf⟩, anyOf⟩, allOf⟩, definitions⟩, defs⟩ := restored
  have items : itemsField ((node.items.map Items.toJson).map View.ofJson) = some node.items := by
    refine itemsField_written fun stated given node mem => items node ?_
    rw [Option.mem_def.mp given]
    exact mem
  rw [Restored, ofJson?, toJson_eq]
  show ofFields? (View.ofMembers (Table.ofList node.members)) = some node
  unfold ofFields?
  simp only [field, keywords]
  unfold written? members Keywords.members
  simp only [Table.get?_ofList_append, get?_optionalMember, get?_partsMember, itemsMember_eq,
    String.reduceEq, if_true, if_false, Option.or_none, Option.none_or, items,
    listField_written oneOf, listField_written anyOf, listField_written allOf,
    tableField_written properties, tableField_written definitions, tableField_written defs]
  cases node
  rfl

end Node

/-! ### What was read -/

/-- All nodes that a value is seen as inside a node are read back. -/
structure View.Restores (view : View) : Prop where
  node : ∀ node, view.node = some node → node.Restored
  table : ∀ table, view.table = some table → ∀ node ∈ table.map (·.2), node.Restored
  list : ∀ nodes, view.list = some nodes → ∀ node ∈ nodes, node.Restored

theorem exists_of_mem_mapM {f : α → Option β} {xs : List α} {ys : List β} (made : xs.mapM f = some ys)
    {y : β} (mem : y ∈ ys) : ∃ x ∈ xs, f x = some y := by
  induction xs generalizing ys with
  | nil =>
    cases Option.some.inj made
    cases mem
  | cons x xs ih =>
    rw [List.mapM_cons] at made
    obtain ⟨first, here, made⟩ := Option.bind_eq_some_iff.mp made
    obtain ⟨rest, others, made⟩ := Option.bind_eq_some_iff.mp made
    cases Option.some.inj made
    rcases List.mem_cons.mp mem with rfl | mem
    · exact ⟨x, List.mem_cons_self, here⟩
    · obtain ⟨x', inside, same⟩ := ih others mem
      exact ⟨x', List.mem_cons_of_mem x inside, same⟩

namespace Node

theorem keywordsOf?_inv {field : String → Option Json} {k : Keywords}
    (read : keywordsOf? field = some k) : k.constant ≠ some .null ∧ k.default ≠ some .null := by
  unfold keywordsOf? at read
  iterate 14 obtain ⟨_, -, read⟩ := Option.bind_eq_some_iff.mp read
  obtain ⟨constant, constant_read, read⟩ := Option.bind_eq_some_iff.mp read
  obtain ⟨default, default_read, read⟩ := Option.bind_eq_some_iff.mp read
  iterate 5 obtain ⟨_, -, read⟩ := Option.bind_eq_some_iff.mp read
  cases Option.some.inj read
  exact ⟨Json.ne_null_of_optionalField constant_read, Json.ne_null_of_optionalField default_read⟩

/-- What the fields of a record have in them is read into the node. -/
structure ReadFrom (fields : List (String × View)) (node : Node) : Prop where
  keywords : keywordsOf? (fun name => (Table.get? fields name).map View.json) = some node.toKeywords
  properties : partsField View.table (Table.get? fields "properties") = some node.properties
  items : itemsField (Table.get? fields "items") = some node.items
  oneOf : partsField View.list (Table.get? fields "oneOf") = some node.oneOf
  anyOf : partsField View.list (Table.get? fields "anyOf") = some node.anyOf
  allOf : partsField View.list (Table.get? fields "allOf") = some node.allOf
  definitions : partsField View.table (Table.get? fields "definitions") = some node.definitions
  defs : partsField View.table (Table.get? fields "$defs") = some node.defs

theorem readFrom_of_ofFields? {fields : List (String × View)} (read : ofFields? fields = some node) :
    ReadFrom fields node := by
  unfold ofFields? at read
  simp only [bind, Option.bind_eq_some_iff, pure, Option.some.injEq] at read
  obtain ⟨_, keywords, _, properties, _, items, _, oneOf, _, anyOf, _, allOf, _, definitions, _, defs,
    rfl⟩ := read
  exact ⟨keywords, properties, items, oneOf, anyOf, allOf, definitions, defs⟩

end Node

namespace View

theorem Restores.partsField_table {field : Option View} {table : List (String × Node)}
    (restores : ∀ view ∈ field, view.Restores)
    (read : Node.partsField View.table field = some table) : ∀ node ∈ table.map (·.2), node.Restored := by
  cases field with
  | none =>
    cases Option.some.inj read
    nofun
  | some view => exact (restores view rfl).table table read

theorem Restores.partsField_list {field : Option View} {nodes : List Node}
    (restores : ∀ view ∈ field, view.Restores)
    (read : Node.partsField View.list field = some nodes) : ∀ node ∈ nodes, node.Restored := by
  cases field with
  | none =>
    cases Option.some.inj read
    nofun
  | some view => exact (restores view rfl).list nodes read

theorem Restores.items? {view : View} {items : Items Node} (restores : view.Restores)
    (read : view.items? = some items) : ∀ node ∈ items.nodes, node.Restored := by
  unfold View.items? at read
  split at read
  · rename_i positions list
    cases read
    exact restores.list positions list
  · obtain ⟨item, single, rfl⟩ := Option.map_eq_some_iff.mp read
    intro node mem
    cases List.mem_singleton.mp mem
    exact restores.node item single

theorem Restores.itemsField {field : Option View} {items : Option (Items Node)}
    (restores : ∀ view ∈ field, view.Restores) (read : Node.itemsField field = some items) :
    ∀ node ∈ (items.map Items.nodes).getD [], node.Restored := by
  unfold Node.itemsField at read
  split at read
  · cases read
    nofun
  · rename_i view
    split at read
    · cases read
      nofun
    · obtain ⟨stated, given, rfl⟩ := Option.map_eq_some_iff.mp read
      exact (restores view rfl).items? given

/-- A node that was read from fields is read back if what their values are seen as is. -/
theorem Restores.of_fields {fields : List (String × View)}
    (restores : ∀ entry ∈ fields, entry.2.Restores) (read : Node.ofFields? fields = some node) :
    node.Restored := by
  have found (name : String) : ∀ view ∈ Table.get? fields name, view.Restores :=
    fun view here => restores (name, view) (Validation.get?_mem here)
  have made := Node.readFrom_of_ofFields? read
  obtain ⟨constant, default⟩ := Node.keywordsOf?_inv made.keywords
  refine .of_parts constant default ?_
  simp only [Node.parts, List.mem_append, or_imp, forall_and]
  exact ⟨⟨⟨⟨⟨⟨partsField_table (found _) made.properties, Restores.itemsField (found _) made.items⟩,
    partsField_list (found _) made.oneOf⟩, partsField_list (found _) made.anyOf⟩,
    partsField_list (found _) made.allOf⟩, partsField_table (found _) made.definitions⟩,
    partsField_table (found _) made.defs⟩

theorem Restores.object {members : List (String × Json)}
    (each : ∀ entry ∈ members, (ofJson entry.2).Restores) : (ofJson (.object members)).Restores := by
  have views : ∀ entry ∈ ofMembers members, entry.2.Restores := by
    rw [ofMembers_eq]
    intro entry mem
    obtain ⟨source, inside, rfl⟩ := List.mem_map.mp mem
    exact each source inside
  refine ⟨fun node read => of_fields views read, fun table read node mem => ?_, nofun⟩
  obtain ⟨entry, inside, rfl⟩ := List.mem_map.mp mem
  obtain ⟨source, listed, made⟩ := exists_of_mem_mapM read inside
  obtain ⟨node, seen, rfl⟩ := Option.map_eq_some_iff.mp made
  exact (views source listed).node node seen

theorem Restores.array {elements : List Json} (each : ∀ x ∈ elements, (ofJson x).Restores) :
    (ofJson (.array elements)).Restores := by
  have views : ∀ view ∈ ofElements elements, view.Restores := by
    rw [ofElements_eq]
    intro view mem
    obtain ⟨source, inside, rfl⟩ := List.mem_map.mp mem
    exact each source inside
  refine ⟨fun node read => ?_, nofun, fun nodes read node mem => ?_⟩
  · obtain ⟨fields, positions, read⟩ := Option.bind_eq_some_iff.mp read
    unfold Json.record at positions
    split at positions
    · cases positions
      exact of_fields (fun entry mem => views entry.2 (List.of_mem_zip mem).2) read
    · cases positions
  · obtain ⟨view, listed, seen⟩ := exists_of_mem_mapM read mem
    exact (views view listed).node node seen

/-- The nodes that a value is seen as are read back: those in it come first. -/
theorem restores (value : Json) : (ofJson value).Restores := by
  refine ofJson.induct (fun value => (ofJson value).Restores)
    (fun elements => ∀ x ∈ elements, (ofJson x).Restores)
    (fun members => ∀ entry ∈ members, (ofJson entry.2).Restores) ?_ ?_ ?_ nofun ?_ nofun ?_ value
  · exact fun members each => .object each
  · exact fun elements each => .array each
  · intro value object array
    have leaf : ofJson value = ⟨value, none, none, none⟩ := by
      cases value <;> simp_all [ofJson]
    rw [leaf]
    exact ⟨nofun, nofun, nofun⟩
  · intro x rest here others y mem
    rcases List.mem_cons.mp mem with rfl | mem
    · exact here
    · exact others y mem
  · intro name x rest here others entry mem
    rcases List.mem_cons.mp mem with rfl | mem
    · exact here
    · exact others entry mem

end View

/-- A node that was read from JSON is read back from what it is written as, and is then written as the
same again. -/
theorem Node.ofJson?_toJson_of_read {value : Json} {node : Node} (read : ofJson? value = some node) :
    ofJson? node.toJson = some node ∧
      (ofJson? node.toJson).map toJson = some node.toJson := by
  have restored : ofJson? node.toJson = some node := (View.restores value).node node read
  exact ⟨restored, congrArg (Option.map toJson) restored⟩

/-- A node with both kinds of exclusive bounds, nulls for what is absent, and nodes as arrays. -/
def manySpellings : Json := .ofMembers [
  ("type", .array [.object [("string", .null)], .string "null"]), ("const", .null), ("enum", .array []),
  ("exclusiveMaximum", .bool true), ("exclusiveMinimum", Json.ofNat 3),
  ("items", .array [.array [], .array [.string "integer", .string "#/$defs/other"]]),
  ("anyOf", .array [.object [("items", .array [.string "null"])]]),
  ("$defs", .object [("other", .array [.null, .null, .string "Other"])])]

theorem Node.ofJson?_toJson_manySpellings : ∃ node, ofJson? manySpellings = some node ∧
    ofJson? node.toJson = some node ∧ (ofJson? node.toJson).map toJson = some node.toJson := by
  have accepted : (ofJson? manySpellings).isSome = true := by decide +kernel
  obtain ⟨node, read⟩ := Option.isSome_iff_exists.mp accepted
  exact ⟨node, read, ofJson?_toJson_of_read read⟩

end Schema

end MockApi
