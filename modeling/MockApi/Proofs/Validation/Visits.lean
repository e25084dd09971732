import MockApi.Proofs.Validation.Guard
import Mathlib.Logic.Relation

/-!
# What a check visits

A check comes from a node to its branches, to the node behind a reference, and to parts of the value
(`Visit`). The nodes that it may meet at one place of the value, and those that it may meet at all, are
found by going on so (`SamePlace`, `Leads`), and so are its calls (`Call`). Unless a member `$` of the whole
value is visited, no reference is being followed yet where a part of the value is reached
(`Confined.fresh`), and those that are being followed lead to where the check stands (`Call.followed`).
-/

namespace MockApi.Schema.Node

/-- The kinds that a check lets the value choose from. -/
def checkedKinds (node : Node) : List Kind :=
  match node.driver with
  | .typed kind => [kind]
  | .union kinds => kinds
  | _ => []

/-- The values that a node is one of, if it is given by its values. -/
def fixedValues (node : Node) : List Json :=
  match node.driver with
  | .constant value => [value]
  | .enumeration first rest => first :: rest
  | _ => []

end MockApi.Schema.Node

namespace MockApi.Validation

open Schema

/-- What a check of a node and a value goes on to, the alternatives of `oneOf` among it. -/
inductive Visit (doc : Document) (node : Node) : Json → Move → Node → Json → Prop
  | reference {value : Json} {pointer : String} {place : Place} {target : Node}
      (driver : node.driver = .reference pointer)
      (lookup : doc.lookup pointer = .internal place target) :
      Visit doc node value (.reference place) target value
  | allOf {value : Json} {branches : List Node} {branch : Node}
      (driver : node.driver = .allOf branches) (mem : branch ∈ branches) :
      Visit doc node value .branch branch value
  | anyOf {value : Json} {branches : List Node} {branch : Node}
      (driver : node.driver = .anyOf branches) (mem : branch ∈ branches) :
      Visit doc node value .branch branch value
  | oneOf {value : Json} {branches : List Node} {branch : Node}
      (driver : node.driver = .oneOf branches) (mem : branch ∈ branches) :
      Visit doc node value .branch branch value
  | property {members : List (String × Json)} {name : String} {property : Node} {member : Json}
      (kind : .object ∈ node.checkedKinds) (mem : (name, property) ∈ node.properties)
      (found : Table.get? members name = some member) :
      Visit doc node (.object members) (.part (.member name)) property member
  | single {elements : List Json} {item : Node} {i : Nat} {element : Json}
      (kind : .array ∈ node.checkedKinds) (items : node.items = some (.single item))
      (found : elements[i]? = some element) :
      Visit doc node (.array elements) (.part (.element i)) item element
  | tuple {elements : List Json} {positions : List Node} {item : Node} {i : Nat} {element : Json}
      (kind : .array ∈ node.checkedKinds) (items : node.items = some (.tuple positions))
      (position : positions[i]? = some item) (found : elements[i]? = some element) :
      Visit doc node (.array elements) (.part (.element i)) item element

/-- A check of the node may come to the other at the same place of the value, in one step. -/
def Beside (doc : Document) (node other : Node) : Prop :=
  ∃ value move, Visit doc node value move other value ∧ ∀ step, move ≠ .part step

/-- A check of the node may come to the other, in one step. -/
def Next (doc : Document) (node other : Node) : Prop :=
  ∃ value move value', Visit doc node value move other value'

/-- A check of the node may come to the other at the same place of the value. -/
def SamePlace (doc : Document) : Node → Node → Prop := Relation.ReflTransGen (Beside doc)

/-- A check of the node may come to the other. -/
def Leads (doc : Document) : Node → Node → Prop := Relation.ReflTransGen (Next doc)

variable {doc : Document} {node n : Node} {value v : Json} {path : String} {move : Move}

theorem Visit.next (visit : Visit doc node value move n v) : Next doc node n := ⟨_, _, _, visit⟩

theorem Leads.visit {start : Node} (leads : Leads doc start node)
    (visit : Visit doc node value move n v) : Leads doc start n :=
  leads.tail visit.next

theorem SamePlace.visit {start : Node} (same : SamePlace doc start node)
    (visit : Visit doc node value move n value) (stays : ∀ step, move ≠ .part step) :
    SamePlace doc start n :=
  same.tail ⟨_, _, visit, stays⟩

/-- Of the value, a visit at one place depends on nothing. -/
theorem Visit.elsewhere (visit : Visit doc node value move n value) (stays : ∀ step, move ≠ .part step)
    (other : Json) : Visit doc node other move n other := by
  cases visit with
  | reference driver lookup => exact .reference driver lookup
  | allOf driver mem => exact .allOf driver mem
  | anyOf driver mem => exact .anyOf driver mem
  | oneOf driver mem => exact .oneOf driver mem
  | _ => exact absurd rfl (stays _)

/-- At the place of a node of one kind there is no other. -/
theorem SamePlace.eq_of_typed {kind : Kind} (same : SamePlace doc node n)
    (typed : node.driver = .typed kind) : n = node := by
  induction same with
  | refl => rfl
  | tail before beside ih =>
    subst ih
    obtain ⟨value, move, visit, stays⟩ := beside
    cases visit with
    | property | single | tuple => exact absurd rfl (stays _)
    | _ driver => cases typed.symm.trans driver

/-- The nodes that a check of a node may come to, in one step. -/
def nexts (doc : Document) (node : Node) : List Node :=
  match node.driver with
  | .reference pointer => match doc.lookup pointer with
    | .internal _ target => [target]
    | _ => []
  | .allOf branches | .anyOf branches | .oneOf branches => branches
  | .typed _ | .union _ => node.properties.map (·.2) ++ match node.items with
    | some (.single item) => [item]
    | some (.tuple positions) => positions
    | none => []
  | _ => []

theorem mem_nexts_of_checked {kind : Kind} (checked : kind ∈ node.checkedKinds)
    (part : (∃ name, (name, n) ∈ node.properties) ∨ node.items = some (.single n) ∨
      ∃ positions, node.items = some (.tuple positions) ∧ n ∈ positions) : n ∈ nexts doc node := by
  have typed : (∃ kind, node.driver = .typed kind) ∨ ∃ kinds, node.driver = .union kinds := by
    unfold Node.checkedKinds at checked
    split at checked <;> simp_all
  have listed : n ∈ node.properties.map (·.2) ++ match node.items with
      | some (.single item) => [item]
      | some (.tuple positions) => positions
      | none => [] := by
    rcases part with ⟨name, mem⟩ | single | ⟨positions, tuple, mem⟩
    · exact List.mem_append_left _ (List.mem_map_of_mem mem)
    · simp [single]
    · simp [tuple, mem]
  rcases typed with ⟨kind, driver⟩ | ⟨kinds, driver⟩ <;> simpa only [nexts, driver] using listed

theorem Visit.mem_nexts (visit : Visit doc node value move n v) : n ∈ nexts doc node := by
  cases visit with
  | reference driver lookup => simp [nexts, driver, lookup]
  | allOf driver mem | anyOf driver mem | oneOf driver mem => simpa only [nexts, driver] using mem
  | property checked mem => exact mem_nexts_of_checked checked (.inl ⟨_, mem⟩)
  | single checked items => exact mem_nexts_of_checked checked (.inr (.inl items))
  | tuple checked items position =>
    exact mem_nexts_of_checked checked (.inr (.inr ⟨_, items, List.mem_of_getElem? position⟩))

/-- A check comes to no other nodes than those of a list that holds what each of them may come to. -/
theorem Leads.mem_of_closed (nodes : List Node) (closed : ∀ m ∈ nodes, nexts doc m ⊆ nodes)
    (start : node ∈ nodes) (leads : Leads doc node n) : n ∈ nodes := by
  induction leads with
  | refl => exact start
  | tail _ next ih =>
    obtain ⟨_, _, _, visit⟩ := next
    exact closed _ ih visit.mem_nexts

/-! ### Induction along the visits -/

theorem Visit.reference_inv {place : Place} (visit : Visit doc node value (.reference place) n v) :
    v = value ∧ place.key ∈ keys doc := by
  cases visit with
  | reference driver lookup => exact ⟨rfl, place_key_mem_keys lookup⟩

theorem Visit.branch_inv (visit : Visit doc node value .branch n v) :
    v = value ∧ sizeOf n < sizeOf node := by
  cases visit with
  | allOf driver mem =>
    exact ⟨rfl, sizeOf_branch_lt (.inr (.inr (Node.allOf_of_driver driver ▸ mem)))⟩
  | anyOf driver mem =>
    exact ⟨rfl, sizeOf_branch_lt (.inr (.inl (Node.anyOf_of_driver driver ▸ mem)))⟩
  | oneOf driver mem =>
    exact ⟨rfl, sizeOf_branch_lt (.inl (Node.oneOf_of_driver driver ▸ mem))⟩

theorem Visit.sizeOf_lt {step : Step} (visit : Visit doc node value (.part step) n v) :
    sizeOf v < sizeOf value := by
  cases visit with
  | property kind mem found => exact (Part.property mem found : Part doc node _ _ _ _).sizeOf_lt
  | single kind items found => exact (Part.single items found : Part doc node _ _ _ _).sizeOf_lt
  | tuple kind items position found =>
    exact (Part.tuple items position found : Part doc node _ _ _ _).sizeOf_lt

/-- What holds of a check as soon as it holds of those that it goes on to, alternatives among them, holds
of every check. -/
theorem visit_induction (doc : Document) {motive : Guard → String → Node → Json → Prop}
    (step : ∀ guard path node value,
      (∀ move n v, Visit doc node value move n v → ¬Move.InProgress guard path move →
        motive (move.guard guard path) (move.path path) n v) →
      motive guard path node value)
    (guard : Guard) (path : String) (node : Node) (value : Json) : motive guard path node value :=
  step guard path node value fun move n v _visit _fresh =>
    visit_induction doc step (move.guard guard path) (move.path path) n v
termination_by (sizeOf value, unfollowed doc guard path, sizeOf node)
decreasing_by
  cases move with
  | part step => exact Prod.Lex.left _ _ _visit.sizeOf_lt
  | branch =>
    obtain ⟨rfl, smaller⟩ := _visit.branch_inv
    exact Prod.Lex.right _ (Prod.Lex.right _ smaller)
  | reference place =>
    obtain ⟨rfl, mem⟩ := _visit.reference_inv
    have fewer := unfollowed_cons_lt mem (by simpa [Move.InProgress] using _fresh)
    exact Prod.Lex.right _ (Prod.Lex.left _ _ fewer)

/-! ### References that are being followed -/

variable {guard : Guard}

/-- Where a check stands at a path, references are being followed at no part below. -/
def Confined (path : String) (guard : Guard) : Prop :=
  ∀ frame ∈ guard, frame.2 = rootPath ∨ path ≠ rootPath ∧ frame.2.length ≤ path.length

namespace Confined

theorem nil (path : String) : Confined path [] := nofun

theorem mono {guard' : Guard} (confined : Confined path guard) (fewer : guard' ⊆ guard) :
    Confined path guard' :=
  fun frame mem => confined frame (fewer mem)

theorem cons (confined : Confined path guard) (key : String) : Confined path ((key, path) :: guard) := by
  intro frame mem
  rcases List.mem_cons.mp mem with rfl | mem
  · by_cases whole : path = rootPath
    · exact .inl whole
    · exact .inr ⟨whole, Nat.le_refl _⟩
  · exact confined frame mem

variable {step : Step}

theorem extend (confined : Confined path guard) (below : step.extend path ≠ rootPath) :
    Confined (step.extend path) guard := by
  intro frame mem
  rcases confined frame mem with whole | ⟨part, short⟩
  · exact .inl whole
  · exact .inr ⟨below, short.trans (length_lt_extend part step).le⟩

/-- No reference is being followed yet at a part that is reached. -/
theorem fresh (confined : Confined path guard) (below : step.extend path ≠ rootPath) (key : String) :
    (key, step.extend path) ∉ guard := by
  intro mem
  rcases confined _ mem with whole | ⟨part, short⟩
  · exact below whole
  · exact absurd short (Nat.not_le.mpr (length_lt_extend part step))

end Confined

/-- Below a part of the value there is no path of the whole value, nor below the whole value unless its
member `$` is visited. -/
theorem Visit.extend_ne {step : Step} (visit : Visit doc node value (.part step) n v)
    (plain : path = rootPath → value.member? rootPath = none ∨ rootPath ∉ Table.names node.properties) :
    step.extend path ≠ rootPath := by
  by_cases whole : path = rootPath
  · subst whole
    refine extend_rootPath_ne ?_
    rintro rfl
    cases visit with
    | property kind mem found =>
      rcases plain rfl with absent | absent
      · rw [Json.member?, found] at absent
        cases absent
      · exact absent (List.mem_map_of_mem mem)
  · exact extend_ne_rootPath whole step

/-- The member `$` of the whole value is not visited. -/
def Plain (doc : Document) (node : Node) (whole : Json) : Prop :=
  whole.member? rootPath = none ∨ ∀ n, Leads doc node n → rootPath ∉ Table.names n.properties

section

variable {whole : Json}

theorem Plain.leads (plain : Plain doc node whole) (leads : Leads doc node n) : Plain doc n whole :=
  plain.imp id fun absent m further => absent m (leads.trans further)

theorem Plain.visit (plain : Plain doc node whole) (visit : Visit doc node value move n v) :
    Plain doc n whole :=
  plain.leads (.single visit.next)

/-- The path of a part that is visited is not that of the whole value. -/
theorem Plain.extend_ne {step : Step} (plain : Plain doc node whole)
    (above : path = rootPath → value = whole) (visit : Visit doc node value (.part step) n v) :
    step.extend path ≠ rootPath :=
  visit.extend_ne fun same =>
    plain.imp (fun absent => by rwa [above same]) fun absent => absent node .refl

/-! ### The calls of a check -/

/-- What the check of a whole value comes to: the references that are being followed there, the path, and
what is checked. -/
inductive Call (doc : Document) (whole : Json) : Guard → String → Node → Json → Prop
  | start : Call doc whole [] rootPath doc.root whole
  | visit {guard : Guard} {path : String} {node n : Node} {value v : Json} {move : Move}
      (call : Call doc whole guard path node value) (visit : Visit doc node value move n v)
      (new : ¬move.InProgress guard path) :
      Call doc whole (move.guard guard path) (move.path path) n v

namespace Call

theorem leads (call : Call doc whole guard path node value) : Leads doc doc.root node := by
  induction call with
  | start => exact .refl
  | visit call visit new ih => exact ih.visit visit

theorem confined (plain : Plain doc doc.root whole) (call : Call doc whole guard path node value) :
    Confined path guard ∧ (path = rootPath → value = whole) := by
  induction call with
  | start => exact ⟨.nil rootPath, fun _ => rfl⟩
  | @visit guard path node n value v move call visit new ih =>
    obtain ⟨confined, above⟩ := ih
    cases move with
    | branch =>
      obtain ⟨rfl, -⟩ := visit.branch_inv
      exact ⟨confined, above⟩
    | reference place =>
      obtain ⟨rfl, -⟩ := visit.reference_inv
      exact ⟨confined.cons place.key, above⟩
    | part step =>
      have below := (plain.leads call.leads).extend_ne above visit
      exact ⟨confined.extend below, fun at_root => absurd at_root below⟩

/-- The references that are being followed at a place lead to the node that is checked there. -/
theorem followed (plain : Plain doc doc.root whole) (call : Call doc whole guard path node value)
    {key : String} (mem : (key, path) ∈ guard) :
    ∃ place target, place.key = key ∧ nodeAt? doc place = some target ∧ SamePlace doc target node := by
  induction call with
  | start => cases mem
  | @visit guard path node n value v move call visit new ih =>
    cases move with
    | branch =>
      obtain ⟨rfl, -⟩ := visit.branch_inv
      obtain ⟨place, target, same, at_place, leads⟩ := ih mem
      exact ⟨place, target, same, at_place, leads.visit visit (by simp)⟩
    | reference place =>
      obtain ⟨rfl, -⟩ := visit.reference_inv
      rcases List.mem_cons.mp mem with here | before
      · cases visit with
        | reference driver lookup =>
          exact ⟨place, n, (Prod.mk.inj here).1.symm, nodeAt?_of_lookup lookup, .refl⟩
      · obtain ⟨place, target, same, at_place, leads⟩ := ih before
        exact ⟨place, target, same, at_place, leads.visit visit (by simp)⟩
    | part step =>
      obtain ⟨confined, above⟩ := call.confined plain
      exact absurd mem (confined.fresh ((plain.leads call.leads).extend_ne above visit) key)

end Call

end

/-! ### Alternatives -/

/-- Two checks of the same alternatives agree where they agree on each. -/
theorem check_oneOf_iff {doc' : Document} {guard' : Guard} {node' : Node} {value' : Json}
    {branches : List Node} (driver : node.driver = .oneOf branches)
    (driver' : node'.driver = .oneOf branches) (present : (value.isNull && node.isNullable) = false)
    (present' : (value'.isNull && node'.isNullable) = false)
    (same : ∀ branch ∈ branches, check doc guard branch value path = .ok () ↔
      check doc' guard' branch value' path = .ok ()) :
    check doc guard node value path = .ok () ↔ check doc' guard' node' value' path = .ok () := by
  have counts : (branches.countP fun branch => (check doc guard branch value path).isOk) =
      branches.countP fun branch => (check doc' guard' branch value' path).isOk :=
    List.countP_congr fun branch mem => by
      rw [isOk_iff, isOk_iff]
      exact same branch mem
  rw [check_driven present driver, check_driven present' driver', driven, driven, ite_fail_eq_ok,
    ite_fail_eq_ok, counts]

theorem exists_of_check_oneOf {branches : List Node} (present : (value.isNull && node.isNullable) = false)
    (driver : node.driver = .oneOf branches) (accepted : check doc guard node value path = .ok ()) :
    ∃ branch ∈ branches, check doc guard branch value path = .ok () := by
  rw [check_driven present driver, driven, ite_fail_eq_ok] at accepted
  obtain ⟨branch, mem, holds⟩ := List.countP_pos_iff.mp (by rw [accepted]; exact Nat.one_pos)
  exact ⟨branch, mem, isOk_iff.mp holds⟩

/-- The node has alternatives of which, wherever a check comes to them, no two accept. -/
def Exclusive (doc : Document) (node : Node) : Prop :=
  ∀ whole guard path value branches, Call doc whole guard path node value →
    node.driver = .oneOf branches →
    (branches.countP fun branch => (check doc guard branch value path).isOk) ≤ 1

theorem exclusive_of_pair {first second : Node} (driver : node.driver = .oneOf [first, second])
    (apart : ∀ whole guard path value, Call doc whole guard path node value →
      check doc guard first value path = .ok () → check doc guard second value path ≠ .ok ()) :
    Exclusive doc node := by
  intro whole guard path value branches call driver'
  cases driver.symm.trans driver'
  rw [List.countP_cons, List.countP_singleton]
  by_cases holds : check doc guard first value path = .ok ()
  · rw [if_neg (isOk_iff.not.mpr (apart whole guard path value call holds))]
    split <;> omega
  · rw [if_neg (isOk_iff.not.mpr holds)]
    split <;> omega

theorem Exclusive.check_iff {whole : Json} {branches : List Node} (exclusive : Exclusive doc node)
    (call : Call doc whole guard path node value) (driver : node.driver = .oneOf branches)
    (present : (value.isNull && node.isNullable) = false) :
    check doc guard node value path = .ok () ↔
      ∃ branch ∈ branches, check doc guard branch value path = .ok () := by
  refine ⟨exists_of_check_oneOf present driver, fun ⟨branch, mem, holds⟩ => ?_⟩
  have once := exclusive whole guard path value branches call driver
  have some : 0 < branches.countP fun branch => (check doc guard branch value path).isOk :=
    List.countP_pos_iff.mpr ⟨branch, mem, isOk_iff.mpr holds⟩
  rw [check_driven present driver, driven, ite_fail_eq_ok]
  omega

end MockApi.Validation
