import MockApi.Proofs.Json.Shape
import MockApi.Proofs.Schema.Components
import MockApi.Proofs.Validation.Visits

/-!
# How deep a check goes

On its way down a check goes into parts of the value, follows references, and goes to branches. How many calls
still lie within one another is bounded by a number that each of these makes less (`remaining`), so that a check
needs no more room than there is at the start of it (`check_depth`). Between two steps into the value no more
references are followed than there are keys to follow.
-/

namespace MockApi.Validation

open Schema

namespace Move

def isReference : Move → Bool
  | .reference _ => true
  | _ => false

def isPart : Move → Bool
  | .part _ => true
  | _ => false

/-- How many references may be followed behind a move, of `limit` at each part of the value. -/
def hops (limit : Nat) : Nat → Move → Option Nat
  | hops, .branch => some hops
  | 0, .reference _ => none
  | hops + 1, .reference _ => some hops
  | _, .part _ => some limit

end Move

/-! ### Calls that may run out -/

/-- What a call of a check is told by the calls that it makes, for what is checked behind each move. One
that runs out says nothing. -/
abbrev Calls := Move → Node → Json → Option (Except Failure Unit)

def firstFailure (results : List (Except Failure Unit)) : Except Failure Unit :=
  checkAll results fun result _ => result

/-- What a call does for a kind, from the calls that it makes. -/
def kindFrom (doc : Document) (guard : Guard) (node : Node) (kind : Kind) (value : Json) (path : String)
    (calls : Calls) : Option (Except Failure Unit) :=
  match kind, value with
  | .object, .object members =>
    match missingMember node.required members with
    | some name => some (fail (childPath path name) "required property" .null)
    | none => do
      return firstFailure (← node.properties.mapM fun entry =>
        match Table.get? members entry.1 with
        | none => some (.ok ())
        | some member => calls (.part (.member entry.1)) entry.2 member)
  | .array, .array elements =>
    match lengthFault node.toKeywords elements.length with
    | some expected => some (fail path expected value)
    | none =>
      match node.items with
      | some (.single item) => do
        return firstFailure (← elements.zipIdx.mapM fun entry =>
          calls (.part (.element entry.2)) item entry.1)
      | some (.tuple positions) => do
        return firstFailure (← (zipIndexed 0 positions elements).mapM fun entry =>
          calls (.part (.element entry.1)) entry.2.1 entry.2.2)
      | none => some (.ok ())
  -- no other kind makes calls
  | kind, value => some (checkKind doc guard node kind value path)

/-- What a call does, from the calls that it makes. It makes them all, also where some of them settle the
outcome. -/
def callFrom (doc : Document) (guard : Guard) (node : Node) (value : Json) (path : String) (calls : Calls) :
    Option (Except Failure Unit) :=
  if value.isNull && node.isNullable then some (.ok ())
  else match node.driver with
    | .reference pointer =>
      match doc.lookup pointer with
      | .internal place target =>
        if guard.contains (place.key, path) then some (.ok ()) else calls (.reference place) target value
      | .external => some (.ok ())
      | .missing => some (fail path ("resolvable reference " ++ pointer) value)
    | .allOf branches => do return firstFailure (← branches.mapM (calls .branch · value))
    | .anyOf branches => do
      let results ← branches.mapM (calls .branch · value)
      return if results.any (·.isOk) then .ok ()
        else fail path "a value matching at least one anyOf branch" value
    | .oneOf branches => do
      let results ← branches.mapM (calls .branch · value)
      return if results.countP (·.isOk) = 1 then .ok ()
        else fail path "a value matching exactly one oneOf branch" value
    | .typed kind => kindFrom doc guard node kind value path calls
    | .union kinds =>
      match kinds.find? (·.admits value) with
      | some kind => kindFrom doc guard node kind value path calls
      | none => some (fail path (Text.joinWith " | " (kinds.map Kind.name)) value)
    -- the others make no calls
    | driver => some (driven doc guard node value path driver)

/-- A check with room for `room` calls within one another, and for `hops` references until the next step into
the value and for `limit` behind it. It runs out where there is no more room. -/
def checkWithin (doc : Document) (limit : Nat) :
    (room hops : Nat) → Guard → Node → Json → String → Option (Except Failure Unit)
  | 0, _, _, _, _, _ => none
  | room + 1, hops, guard, node, value, path =>
    callFrom doc guard node value path fun move n v => do
      checkWithin doc limit room (← move.hops limit hops) (move.guard guard path) n v (move.path path)

variable {doc : Document} {guard : Guard} {node : Node} {value : Json} {path : String} {calls : Calls}

/-! ### One call -/

theorem mapM_eq_some_map {α β : Type} {xs : List α} {f : α → Option β} {g : α → β}
    (each : ∀ x ∈ xs, f x = some (g x)) : xs.mapM f = some (xs.map g) := by
  induction xs with
  | nil => rfl
  | cons x rest ih =>
    obtain ⟨first, others⟩ := List.forall_mem_cons.mp each
    rw [List.mapM_cons, first, ih others]
    rfl

theorem firstFailure_mapM {α : Type} {xs : List α} {calls : α → Option (Except Failure Unit)}
    {test : α → Except Failure Unit} (each : ∀ x ∈ xs, calls x = some (test x)) :
    (do return firstFailure (← xs.mapM calls)) = some (checkAll xs fun x _ => test x) := by
  have first_of_map : firstFailure (xs.map test) = checkAll xs fun x _ => test x := by
    clear each
    induction xs with
    | nil => rfl
    | cons x rest ih =>
      unfold firstFailure at ih
      rw [firstFailure, List.map_cons, checkAll, checkAll, ih]
  rw [mapM_eq_some_map each, ← first_of_map]
  rfl

/-- The calls tell what the check does behind every move that it makes. -/
def Calls.Tell (calls : Calls) (doc : Document) (guard : Guard) (node : Node) (value : Json)
    (path : String) : Prop :=
  ∀ move n v, Visit doc node value move n v → ¬move.InProgress guard path →
    calls move n v = some (check doc (move.guard guard path) n v (move.path path))

theorem kindFrom_object {members : List (String × Json)}
    (tell : calls.Tell doc guard node (.object members) path) (checked : .object ∈ node.checkedKinds) :
    kindFrom doc guard node .object (.object members) path calls =
      some (checkKind doc guard node .object (.object members) path) := by
  rw [checkKind_object, kindFrom]
  cases missingMember node.required members with
  | some name => rfl
  | none =>
    refine firstFailure_mapM fun entry mem => ?_
    cases found : Table.get? members entry.1 with
    | none => rfl
    | some member => exact tell _ _ _ (.property checked mem found) id

theorem kindFrom_array {elements : List Json} (tell : calls.Tell doc guard node (.array elements) path)
    (checked : .array ∈ node.checkedKinds) :
    kindFrom doc guard node .array (.array elements) path calls =
      some (checkKind doc guard node .array (.array elements) path) := by
  rw [checkKind_array, kindFrom]
  cases lengthFault node.toKeywords elements.length with
  | some expected => rfl
  | none =>
    rcases items : node.items with _ | positions | item
    · rfl
    · refine firstFailure_mapM fun entry mem => ?_
      obtain ⟨i, index, position, found⟩ := mem_zipIndexed.mp mem
      rw [index, Nat.zero_add]
      exact tell _ _ _ (.tuple checked items position found) id
    · refine firstFailure_mapM fun entry mem => ?_
      exact tell _ _ _ (.single checked items (List.mem_zipIdx_iff_getElem?.mp mem)) id

theorem kindFrom_eq {kind : Kind} (tell : calls.Tell doc guard node value path)
    (checked : kind ∈ node.checkedKinds) :
    kindFrom doc guard node kind value path calls = some (checkKind doc guard node kind value path) := by
  cases kind
  case object =>
    cases value with
    | object members => exact kindFrom_object tell checked
    | _ => rfl
  case array =>
    cases value with
    | array elements => exact kindFrom_array tell checked
    | _ => rfl
  all_goals rfl

/-- A call does what it does in the check, if it is told by the calls that it makes what these do there. -/
theorem callFrom_eq (tell : calls.Tell doc guard node value path) :
    callFrom doc guard node value path calls = some (check doc guard node value path) := by
  unfold callFrom
  cases present : value.isNull && node.isNullable with
  | true => exact congrArg some (check_null present).symm
  | false =>
    rw [if_neg Bool.false_ne_true, check_driven present rfl]
    have told (branches : List Node)
        (visits : ∀ branch ∈ branches, Visit doc node value .branch branch value) :
        branches.mapM (calls .branch · value) =
          some (branches.map fun branch => check doc guard branch value path) :=
      mapM_eq_some_map fun branch mem => tell _ _ _ (visits branch mem) id
    cases driver : node.driver with
    | reference pointer =>
      rw [driven]
      dsimp only
      cases lookup : doc.lookup pointer with
      | internal place target =>
        dsimp only
        split
        · rfl
        · rename_i new
          exact tell _ _ _ (.reference driver lookup) (by simpa [Move.InProgress] using new)
      | external => rfl
      | missing => rfl
    | allOf branches =>
      exact firstFailure_mapM fun branch mem => tell _ _ _ (.allOf driver mem) id
    | anyOf branches =>
      dsimp only
      rw [told branches fun branch mem => .anyOf driver mem, driven]
      simp only [Option.bind_eq_bind, Option.bind_some, List.any_map, Function.comp_def]
      rfl
    | oneOf branches =>
      dsimp only
      rw [told branches fun branch mem => .oneOf driver mem, driven]
      simp only [Option.bind_eq_bind, Option.bind_some, List.countP_map, Function.comp_def]
      rfl
    | typed kind =>
      have checked : kind ∈ node.checkedKinds := by simp [Node.checkedKinds, driver]
      exact kindFrom_eq tell checked
    | union kinds =>
      rw [driven]
      dsimp only
      cases found : kinds.find? (·.admits value) with
      | none => rfl
      | some kind =>
        have checked : kind ∈ node.checkedKinds := by
          simpa [Node.checkedKinds, driver] using List.mem_of_find?_eq_some found
        exact kindFrom_eq tell checked
    | constant | enumeration | untyped => rfl

/-! ### What each call makes less -/

variable {n : Node} {v : Json} {move : Move}

theorem unfollowed_le (doc : Document) (guard : Guard) (path : String) :
    unfollowed doc guard path ≤ (keys doc).length :=
  List.countP_le_length

theorem length_keys (doc : Document) : (keys doc).length = doc.definitions.length + 1 := by
  rw [keys, Table.names, List.length_cons, List.length_map]

theorem unfollowed_start (doc : Document) (path : String) :
    unfollowed doc [] path = (keys doc).length :=
  List.countP_eq_length.mpr fun _ _ => rfl

/-- Other visits than those along references lead to components of the node. -/
theorem Visit.mem_components (visit : Visit doc node value move n v) (other : move.isReference = false) :
    n ∈ node.components := by
  cases visit with
  | reference driver lookup => cases other
  | allOf driver mem => exact Node.branch_mem_components (.inr (.inr (Node.allOf_of_driver driver ▸ mem)))
  | anyOf driver mem => exact Node.branch_mem_components (.inr (.inl (Node.anyOf_of_driver driver ▸ mem)))
  | oneOf driver mem => exact Node.branch_mem_components (.inl (Node.oneOf_of_driver driver ▸ mem))
  | property kind mem found => exact Node.property_mem_components mem
  | single kind items found => exact Node.items_mem_components items List.mem_cons_self
  | tuple kind items position found =>
    exact Node.items_mem_components items (List.mem_of_getElem? position)

theorem Visit.nesting_lt (visit : Visit doc node value move n v) (other : move.isReference = false) :
    n.nesting < node.nesting :=
  Node.nesting_lt_of_mem_components (visit.mem_components other)

/-- Where a visit leads to, nodes nest no deeper. -/
theorem Visit.nesting_le (visit : Visit doc node value move n v) : doc.nesting n ≤ doc.nesting node := by
  cases move with
  | reference place =>
    cases visit with
    | reference driver lookup => exact Document.greatest_of_lookup lookup
  | branch => exact Document.greatest_mono (visit.nesting_lt rfl).le
  | part step => exact Document.greatest_mono (visit.nesting_lt rfl).le

theorem Visit.value_nesting_lt {step : Step} (visit : Visit doc node value (.part step) n v) :
    v.nesting < value.nesting := by
  cases visit with
  | property kind mem found => exact Json.nesting_member_lt (get?_mem found)
  | single kind items found => exact Json.nesting_element_lt (List.mem_of_getElem? found)
  | tuple kind items position found => exact Json.nesting_element_lt (List.mem_of_getElem? found)

/-- How many calls may still lie within one another where nodes nest at most `depth` deep: through a node after
each reference that may still be followed, at this part of the value or at one below. -/
def remaining (doc : Document) (depth : Nat) (guard : Guard) (path : String) (node : Node) (value : Json) :
    Nat :=
  (value.nesting * (keys doc).length + unfollowed doc guard path) * depth + node.nesting

theorem Visit.remaining_lt {depth : Nat} (visit : Visit doc node value move n v)
    (new : ¬move.InProgress guard path) (deep : doc.nesting node ≤ depth) :
    remaining doc depth (move.guard guard path) (move.path path) n v <
      remaining doc depth guard path node value := by
  unfold remaining
  cases move with
  | branch =>
    obtain ⟨rfl, -⟩ := visit.branch_inv
    exact Nat.add_lt_add_left (visit.nesting_lt rfl) _
  | part step =>
    have within : v.nesting * (keys doc).length + unfollowed doc guard (step.extend path) ≤
        value.nesting * (keys doc).length + unfollowed doc guard path :=
      calc v.nesting * (keys doc).length + unfollowed doc guard (step.extend path)
        _ ≤ v.nesting * (keys doc).length + (keys doc).length :=
          Nat.add_le_add_left (unfollowed_le doc guard _) _
        _ = (v.nesting + 1) * (keys doc).length := (Nat.succ_mul _ _).symm
        _ ≤ value.nesting * (keys doc).length := Nat.mul_le_mul_right _ visit.value_nesting_lt
        _ ≤ value.nesting * (keys doc).length + unfollowed doc guard path := Nat.le_add_right _ _
    exact Nat.add_lt_add_of_le_of_lt (Nat.mul_le_mul_right depth within) (visit.nesting_lt rfl)
  | reference place =>
    obtain ⟨rfl, mem⟩ := visit.reference_inv
    have fewer := unfollowed_cons_lt mem (by simpa [Move.InProgress] using new)
    have small : n.nesting ≤ depth :=
      (Document.le_greatest doc Node.nesting n).trans (visit.nesting_le.trans deep)
    have positive := node.nesting_pos
    calc (v.nesting * (keys doc).length + unfollowed doc ((place.key, path) :: guard) path) * depth +
          n.nesting
      _ ≤ (v.nesting * (keys doc).length + unfollowed doc ((place.key, path) :: guard) path) * depth +
          depth := Nat.add_le_add_left small _
      _ = (v.nesting * (keys doc).length + unfollowed doc ((place.key, path) :: guard) path + 1) * depth :=
        (Nat.succ_mul _ _).symm
      _ ≤ (v.nesting * (keys doc).length + unfollowed doc guard path) * depth :=
        Nat.mul_le_mul_right _ (Nat.add_lt_add_left fewer _)
      _ < (v.nesting * (keys doc).length + unfollowed doc guard path) * depth + node.nesting := by omega

/-- Behind a visit there is room for the references that may be followed there. -/
theorem Visit.exists_hops {limit hops : Nat} (visit : Visit doc node value move n v)
    (new : ¬move.InProgress guard path) (all : (keys doc).length ≤ limit)
    (enough : unfollowed doc guard path ≤ hops) :
    ∃ left, move.hops limit hops = some left ∧
      unfollowed doc (move.guard guard path) (move.path path) ≤ left := by
  cases move with
  | branch => exact ⟨hops, rfl, enough⟩
  | part step => exact ⟨limit, by cases hops <;> rfl, (unfollowed_le doc guard _).trans all⟩
  | reference place =>
    obtain ⟨rfl, mem⟩ := visit.reference_inv
    have fewer := unfollowed_cons_lt mem (by simpa [Move.InProgress] using new)
    cases hops with
    | zero => omega
    | succ left => exact ⟨left, rfl, Nat.le_of_lt_succ (Nat.lt_of_lt_of_le fewer enough)⟩

/-! ### The whole walk -/

/-- A check does not run out of as much room as remains. -/
theorem checkWithin_eq {limit depth room hops : Nat} (all : (keys doc).length ≤ limit)
    (deep : doc.nesting node ≤ depth) (roomy : remaining doc depth guard path node value ≤ room)
    (enough : unfollowed doc guard path ≤ hops) :
    checkWithin doc limit room hops guard node value path = some (check doc guard node value path) := by
  induction room generalizing hops guard path node value with
  | zero =>
    have positive := node.nesting_pos
    rw [remaining] at roomy
    omega
  | succ room ih =>
    refine callFrom_eq fun move n v visit new => ?_
    obtain ⟨left, some_left, enough'⟩ := visit.exists_hops new all enough
    have less := visit.remaining_lt new deep
    rw [some_left]
    exact ih (visit.nesting_le.trans deep) (by omega) enough'

/-- The moves of a check on a way down from a call. -/
inductive Descent (doc : Document) : Guard → String → Node → Json → List Move → Prop
  | here {guard : Guard} {path : String} {node : Node} {value : Json} :
      Descent doc guard path node value []
  | move {guard : Guard} {path : String} {node n : Node} {value v : Json} {move : Move}
      {behind : List Move} (visit : Visit doc node value move n v) (new : ¬move.InProgress guard path)
      (descent : Descent doc (move.guard guard path) (move.path path) n v behind) :
      Descent doc guard path node value (move :: behind)

namespace Descent

variable {moves before between after : List Move}

theorem length_lt {depth : Nat} (descent : Descent doc guard path node value moves)
    (deep : doc.nesting node ≤ depth) : moves.length < remaining doc depth guard path node value := by
  induction descent with
  | @here guard path node value =>
    have positive := node.nesting_pos
    rw [remaining, List.length_nil]
    omega
  | move visit new descent ih =>
    have behind := ih (visit.nesting_le.trans deep)
    have less := visit.remaining_lt new deep
    rw [List.length_cons]
    omega

/-- A way down goes on behind a part of it. -/
theorem behind (descent : Descent doc guard path node value (before ++ after)) :
    ∃ guard path node value, Descent doc guard path node value after := by
  induction before generalizing guard path node value with
  | nil => exact ⟨_, _, _, _, descent⟩
  | cons first before ih =>
    cases descent with
    | move visit new descent => exact ih descent

/-- At one part of the value no key is followed twice. -/
theorem references_le (descent : Descent doc guard path node value (between ++ after))
    (stays : ∀ move ∈ between, move.isPart = false) :
    between.countP (·.isReference) ≤ unfollowed doc guard path := by
  induction between generalizing guard path node value with
  | nil => exact Nat.zero_le _
  | cons first between ih =>
    obtain ⟨stays_first, stays⟩ := List.forall_mem_cons.mp stays
    cases descent with
    | move visit new descent =>
      have rest := ih descent stays
      rw [List.countP_cons]
      cases first with
      | part step => cases stays_first
      | branch => exact rest
      | reference place =>
        obtain ⟨-, mem⟩ := visit.reference_inv
        have fewer := unfollowed_cons_lt mem (by simpa [Move.InProgress] using new)
        simp only [Move.guard, Move.path, Move.isReference] at rest ⊢
        exact Nat.lt_of_le_of_lt rest fewer

end Descent

/-- How many calls of a check may lie within one another: at each part on a way down the value, as many as the
nodes nest for each definition and the root, and those through the node itself. -/
def depthBound (doc : Document) (node : Node) (value : Json) : Nat :=
  (value.nesting + 1) * (doc.definitions.length + 1) * doc.nesting node + node.nesting

theorem remaining_start (doc : Document) (node : Node) (value : Json) (path : String) :
    remaining doc (doc.nesting node) [] path node value = depthBound doc node value := by
  rw [remaining, unfollowed_start, length_keys, depthBound, Nat.succ_mul]

/-- On every way down of a check there are fewer calls than the bound, and with no step into the value between
them at most as many references as there are definitions and one more. With room for so many a check does not
run out. -/
theorem check_depth (doc : Document) (node : Node) (value : Json) :
    (∀ moves, Descent doc [] rootPath node value moves → moves.length < depthBound doc node value ∧
      ∀ before between after, moves = before ++ between ++ after → (∀ move ∈ between, move.isPart = false) →
        between.countP (·.isReference) ≤ doc.definitions.length + 1) ∧
    checkWithin doc (doc.definitions.length + 1) (depthBound doc node value) (doc.definitions.length + 1) []
      node value rootPath = some (checkNode doc node value) := by
  refine ⟨fun moves descent => ⟨?_, ?_⟩, ?_⟩
  · rw [← remaining_start doc node value rootPath]
    exact descent.length_lt (Nat.le_refl _)
  · rintro before between after rfl stays
    rw [List.append_assoc] at descent
    obtain ⟨guard, path, n, v, descent⟩ := descent.behind
    rw [← length_keys]
    exact (descent.references_le stays).trans (unfollowed_le doc guard path)
  · have all := (length_keys doc).le
    exact checkWithin_eq all (Nat.le_refl _) (remaining_start doc node value rootPath).le
      ((unfollowed_le doc [] rootPath).trans all)

/-! ### A circle of references -/

namespace Circle

def toDefinition : Node := { reference := some "#/definitions/again" }

def toRoot : Node := { reference := some "#" }

/-- The root refers to a definition that refers to the root. -/
def document : Document where
  root := toDefinition
  definitions := [("again", toRoot)]

def moves : List Move := [.reference (.definition "again"), .reference .root]

theorem descent : Descent document [] rootPath toDefinition .null moves := by
  have first : Visit document toDefinition .null (.reference (.definition "again")) toRoot .null :=
    .reference rfl rfl
  have second : Visit document toRoot .null (.reference .root) toDefinition .null := .reference rfl rfl
  have new : ¬Move.InProgress [("again", rootPath)] rootPath (.reference .root) := by
    simp [Move.InProgress, Place.key, rootKey]
  exact .move first List.not_mem_nil (.move second new .here)

end Circle

/-- Around the circle both keys are followed, as many as there may be. -/
theorem check_depth_circle :
    Descent Circle.document [] rootPath Circle.toDefinition .null Circle.moves ∧
    Circle.moves.length < depthBound Circle.document Circle.toDefinition .null ∧
    Circle.moves.countP (·.isReference) ≤ Circle.document.definitions.length + 1 ∧
    Circle.moves.countP (·.isReference) = Circle.document.definitions.length + 1 := by
  obtain ⟨short, between⟩ :=
    (check_depth Circle.document Circle.toDefinition .null).1 Circle.moves Circle.descent
  exact ⟨Circle.descent, short, between [] Circle.moves [] rfl (by decide), rfl⟩

end MockApi.Validation
