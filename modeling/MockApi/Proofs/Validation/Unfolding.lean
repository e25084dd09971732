import MockApi.Proofs.Validation.Satisfaction
import MockApi.Proofs.Validation.Walk

/-!
# A check unfolds the schema

One call of `check` accepts exactly where the node meets the value, its parts being those that the walk
accepts in turn (`check_eq_ok`). The walk comes to an end, which gives an induction along it
(`walk_induction`).
-/

namespace MockApi.Validation

open Schema

namespace Move

/-- The references that are being followed behind a move. -/
def guard (guard : Guard) (path : String) : Move → Guard
  | .reference place => (place.key, path) :: guard
  | _ => guard

/-- The path behind a move. -/
def path (path : String) : Move → String
  | .part step => step.extend path
  | _ => path

/-- Whether the move follows a reference that is being followed at this path. -/
def InProgress (guard : Guard) (path : String) : Move → Prop
  | .reference place => (place.key, path) ∈ guard
  | _ => False

end Move

/-- The walk accepts what a move leads to. -/
def Accepts (doc : Document) (guard : Guard) (path : String) (move : Move) (node : Node)
    (value : Json) : Prop :=
  move.InProgress guard path ∨
    check doc (move.guard guard path) node value (move.path path) = .ok ()

variable {doc : Document} {guard : Guard} {node : Node} {value : Json} {path : String}

theorem accepts_branch {n : Node} {v : Json} :
    Accepts doc guard path .branch n v ↔ check doc guard n v path = .ok () := by
  simp [Accepts, Move.InProgress, Move.guard, Move.path]

theorem accepts_part {step : Step} {n : Node} {v : Json} :
    Accepts doc guard path (.part step) n v ↔ check doc guard n v (step.extend path) = .ok () := by
  simp [Accepts, Move.InProgress, Move.guard, Move.path]

/-! ### Kinds -/

theorem missingMember_eq_none {required : List String} {members : List (String × Json)} :
    missingMember required members = none ↔
      ∀ name ∈ required, Table.has members name = true := by
  simp [missingMember, List.find?_eq_none]

theorem mem_zipIndexed {α β : Type} {start : Nat} {as : List α} {bs : List β} {entry : Nat × α × β} :
    entry ∈ zipIndexed start as bs ↔
      ∃ i : Nat, entry.1 = start + i ∧ as[i]? = some entry.2.1 ∧ bs[i]? = some entry.2.2 := by
  induction as generalizing start bs with
  | nil => simp [zipIndexed]
  | cons a as ih =>
    cases bs with
    | nil => simp [zipIndexed]
    | cons b bs =>
      rw [zipIndexed, List.mem_cons, ih]
      constructor
      · rintro (rfl | ⟨i, index, ha, hb⟩)
        · exact ⟨0, rfl, rfl, rfl⟩
        · exact ⟨i + 1, by omega, ha, hb⟩
      · rintro ⟨i, index, ha, hb⟩
        cases i with
        | zero =>
          refine .inl (Prod.ext index (Prod.ext ?_ ?_))
          · exact (Option.some.inj ha).symm
          · exact (Option.some.inj hb).symm
        | succ i => exact .inr ⟨i, by omega, ha, hb⟩

theorem checkKind_object_eq_ok {members : List (String × Json)} :
    checkKind doc guard node .object (.object members) path = .ok () ↔
      KindMeets (Accepts doc guard path) node .object (.object members) := by
  rw [checkKind_object]
  cases missing : missingMember node.required members with
  | some name =>
    simp only [fail_ne_ok, false_iff]
    rintro ⟨required, -⟩
    rw [missingMember_eq_none.mpr required] at missing
    cases missing
  | none =>
    have required := missingMember_eq_none.mp missing
    rw [checkAll_eq_ok]
    constructor
    · intro h
      refine .object required fun name property mem member found => ?_
      have passed := h (name, property) mem
      rw [found] at passed
      exact accepts_part.mpr passed
    · rintro ⟨-, properties⟩ ⟨name, property⟩ mem
      dsimp only
      split
      · rfl
      · rename_i member found
        exact accepts_part.mp (properties name property mem member found)

theorem kindMeets_object_iff {R : Move → Node → Json → Prop} {kind : Kind}
    {members : List (String × Json)} :
    KindMeets R node kind (.object members) ↔ kind = .object ∧
      (∀ name ∈ node.required, Table.has members name = true) ∧
      ∀ name property, (name, property) ∈ node.properties →
        ∀ member, Table.get? members name = some member → R (.part (.member name)) property member := by
  constructor
  · intro meets
    cases meets with
    | object required properties => exact ⟨rfl, required, properties⟩
  · rintro ⟨rfl, required, properties⟩
    exact .object required properties

theorem kindMeets_array_iff {R : Move → Node → Json → Prop} {kind : Kind} {elements : List Json} :
    KindMeets R node kind (.array elements) ↔ kind = .array ∧
      LengthFits node.toKeywords elements.length ∧ ItemsMeet R node.items elements := by
  constructor
  · intro meets
    cases meets with
    | array length items => exact ⟨rfl, length, items⟩
  · rintro ⟨rfl, length, items⟩
    exact .array length items

theorem checkKind_array_eq_ok {elements : List Json} :
    checkKind doc guard node .array (.array elements) path = .ok () ↔
      KindMeets (Accepts doc guard path) node .array (.array elements) := by
  rw [checkKind_array]
  cases fault : lengthFault node.toKeywords elements.length with
  | some expected =>
    simp only [fail_ne_ok, false_iff]
    intro meets
    cases meets with
    | array length => rw [lengthFault_eq_none.mpr length] at fault; cases fault
  | none =>
    have length := lengthFault_eq_none.mp fault
    have meets : KindMeets (Accepts doc guard path) node .array (.array elements) ↔
        ItemsMeet (Accepts doc guard path) node.items elements := by
      simp only [kindMeets_array_iff, length, true_and]
    rw [meets]
    cases node.items with
    | none => simp [ItemsMeet]
    | some items =>
      cases items with
      | single item =>
        rw [checkAll_eq_ok]
        constructor
        · intro h i element found
          exact accepts_part.mpr (h (element, i) (List.mem_zipIdx_iff_getElem?.mpr found))
        · intro h entry mem
          exact accepts_part.mp (h entry.2 entry.1 (List.mem_zipIdx_iff_getElem?.mp mem))
      | tuple positions =>
        rw [checkAll_eq_ok]
        constructor
        · intro h i item element position found
          exact accepts_part.mpr
            (h (i, item, element) (mem_zipIndexed.mpr ⟨i, by simp, position, found⟩))
        · rintro h ⟨index, item, element⟩ mem
          obtain ⟨i, rfl, position, found⟩ := mem_zipIndexed.mp mem
          simpa [Step.extend] using accepts_part.mp (h i item element position found)

theorem checkKind_eq_ok {kind : Kind} :
    checkKind doc guard node kind value path = .ok () ↔
      KindMeets (Accepts doc guard path) node kind value := by
  by_cases admits : kind.admits value = true
  · cases kind <;> cases value <;> simp only [Kind.admits, Bool.false_eq_true] at admits
    case object.object => exact checkKind_object_eq_ok
    case array.array => exact checkKind_array_eq_ok
    case string.string s =>
      rw [checkKind_string, failIf_eq_ok, stringFault_eq_none]
      refine ⟨.string, fun meets => ?_⟩
      cases meets with
      | string fits => exact fits
    case number.number n =>
      rw [checkKind_number, failIf_eq_ok, numberFault_eq_none n.toBinary64_ne_nan]
      refine ⟨.number, fun meets => ?_⟩
      cases meets with
      | number fits => exact fits
    case integer.number n =>
      rw [checkKind_integer admits, failIf_eq_ok, numberFault_eq_none n.toBinary64_ne_nan]
      refine ⟨.integer admits, fun meets => ?_⟩
      cases meets with
      | integer _ fits => exact fits
    case boolean.bool b => exact iff_of_true checkKind_boolean .boolean
    case null.null => exact iff_of_true checkKind_null .null
  · rw [checkKind_refused (by simpa using admits)]
    simp only [fail_ne_ok, false_iff]
    intro meets
    cases meets <;> simp_all [Kind.admits]

/-! ### Nodes -/

theorem Kind.admits_of_meets {R : Move → Node → Json → Prop} {kind : Kind}
    (meets : KindMeets R node kind value) : kind.admits value = true := by
  cases meets with
  | integer whole => exact whole
  | _ => rfl

/-- Only a number is admitted by more than one kind. -/
theorem Kind.eq_or_number {kind other : Kind} (admits : kind.admits value = true)
    (admits' : other.admits value = true) : kind = other ∨ ∃ n, value = .number n := by
  cases value with
  | number n => exact .inr ⟨n, rfl⟩
  | _ =>
    cases kind <;> simp only [Kind.admits, Bool.false_eq_true] at admits
    cases other <;> simp only [Kind.admits, Bool.false_eq_true] at admits'
    exact .inl rfl

theorem kindMeets_string_iff {R : Move → Node → Json → Prop} {kind : Kind} {s : String} :
    KindMeets R node kind (.string s) ↔ kind = .string ∧ StringFits node.toKeywords s := by
  constructor
  · intro meets
    cases meets with
    | string fits => exact ⟨rfl, fits⟩
  · rintro ⟨rfl, fits⟩
    exact .string fits

theorem kindMeets_number_iff {R : Move → Node → Json → Prop} {kind : Kind} {n : Json.Number} :
    KindMeets R node kind (.number n) ↔
      kind.admits (.number n) = true ∧ NumberFits node.toKeywords n.toBinary64 := by
  constructor
  · intro meets
    cases meets with
    | number fits => exact ⟨rfl, fits⟩
    | integer whole fits => exact ⟨whole, fits⟩
  · rintro ⟨admits, fits⟩
    cases kind <;> simp only [Kind.admits, Bool.false_eq_true] at admits
    · exact .number fits
    · exact .integer admits fits

/-- Of the kinds that admit a value any one asks the same of it, except that an integer is whole. -/
theorem KindMeets.of_admits {R : Move → Node → Json → Prop} {kind other : Kind}
    (meets : KindMeets R node kind value) (admits : other.admits value = true) :
    KindMeets R node other value := by
  rcases Kind.eq_or_number (Kind.admits_of_meets meets) admits with rfl | ⟨n, rfl⟩
  · exact meets
  · exact kindMeets_number_iff.mpr ⟨admits, (kindMeets_number_iff.mp meets).2⟩

theorem ite_fail_eq_ok {p : Prop} [Decidable p] {expected : String} {actual : Json} :
    (if p then .ok () else fail path expected actual) = .ok () ↔ p := by
  split <;> simp_all

theorem driven_reference_eq_ok {pointer : String} :
    driven doc guard node value path (.reference pointer) = .ok () ↔
      Asks doc (Accepts doc guard path) node value (.reference pointer) := by
  cases lookup : doc.lookup pointer with
  | internal place target =>
    simp only [driven, Asks, lookup]
    by_cases followed : (place.key, path) ∈ guard
    · simp [Accepts, Move.InProgress, followed]
    · simp [Accepts, Move.InProgress, Move.guard, Move.path, followed]
  | external => simp only [driven, Asks, lookup]
  | missing => simp only [driven, Asks, lookup, fail_ne_ok]

theorem driven_union_eq_ok {kinds : List Kind} :
    driven doc guard node value path (.union kinds) = .ok () ↔
      Asks doc (Accepts doc guard path) node value (.union kinds) := by
  cases found : kinds.find? (·.admits value) with
  | none =>
    simp only [driven, Asks, found, fail_ne_ok, false_iff]
    rintro ⟨kind, mem, meets⟩
    exact List.find?_eq_none.mp found kind mem (Kind.admits_of_meets meets)
  | some kind =>
    simp only [driven, Asks, found, checkKind_eq_ok]
    constructor
    · exact fun meets => ⟨kind, List.mem_of_find?_eq_some found, meets⟩
    · rintro ⟨other, -, meets⟩
      have admits := List.find?_some found
      exact meets.of_admits admits

/-- A call accepts by its driver exactly where the driver asks for nothing more. -/
theorem driven_eq_ok {driver : Driver} (plain : ∀ branches, driver ≠ .oneOf branches) :
    driven doc guard node value path driver = .ok () ↔
      Asks doc (Accepts doc guard path) node value driver := by
  cases driver with
  | oneOf branches => exact absurd rfl (plain branches)
  | reference pointer => exact driven_reference_eq_ok
  | allOf branches =>
    rw [driven, checkAll_eq_ok]
    exact forall₂_congr fun branch _ => accepts_branch.symm
  | anyOf branches =>
    rw [driven, ite_fail_eq_ok]
    simp only [List.any_eq_true, isOk_iff, Asks, accepts_branch]
  | constant expected => exact ite_fail_eq_ok
  | enumeration first rest =>
    rw [driven, ite_fail_eq_ok, List.any_eq_true]
    exact Iff.rfl
  | typed kind => exact checkKind_eq_ok
  | union kinds => exact driven_union_eq_ok
  | untyped => exact iff_of_true rfl trivial

/-- What the walk accepts, unfolded once. A node with `oneOf` has no unfolding. -/
theorem check_eq_ok (plain : ∀ branches, node.driver ≠ .oneOf branches) :
    check doc guard node value path = .ok () ↔ Meets doc (Accepts doc guard path) node value := by
  cases hn : value.isNull && node.isNullable with
  | true =>
    have null : value = .null ∧ node.isNullable = true := by
      cases value <;> simp_all [Json.isNull]
    exact iff_of_true (check_null hn) (.null null.1 null.2)
  | false => rw [check_driven hn rfl, driven_eq_ok plain, meets_iff_asks hn rfl]

theorem check_internal_eq_ok {pointer : String} {place : Place} {target : Node}
    (hn : (value.isNull && node.isNullable) = false) (driver : node.driver = .reference pointer)
    (lookup : doc.lookup pointer = .internal place target) :
    check doc guard node value path = .ok () ↔
      Accepts doc guard path (.reference place) target value := by
  rw [check_driven hn driver, driven_reference_eq_ok]
  simp only [Asks, lookup]

theorem check_object_iff {members : List (String × Json)} (driver : node.driver = .typed .object) :
    check doc guard node (.object members) path = .ok () ↔
      (∀ name ∈ node.required, Table.has members name = true) ∧
      ∀ entry ∈ node.properties, ∀ member, Table.get? members entry.1 = some member →
        check doc guard entry.2 member (childPath path entry.1) = .ok () := by
  rw [check_typed rfl driver, checkKind_eq_ok, kindMeets_object_iff]
  simp only [accepts_part, true_and, Prod.forall]
  rfl

/-! ### Induction along the walk -/

theorem Part.reference_inv {place : Place} {n : Node} {v : Json}
    (part : Part doc node value (.reference place) n v) : v = value ∧ place.key ∈ keys doc := by
  cases part with
  | reference driver lookup => exact ⟨rfl, place_key_mem_keys lookup⟩

theorem Part.branch_inv {n : Node} {v : Json} (part : Part doc node value .branch n v) :
    v = value ∧ sizeOf n < sizeOf node := by
  cases part with
  | allOf driver mem =>
    exact ⟨rfl, sizeOf_branch_lt (.inr (.inr (Node.allOf_of_driver driver ▸ mem)))⟩
  | anyOf driver mem =>
    exact ⟨rfl, sizeOf_branch_lt (.inr (.inl (Node.anyOf_of_driver driver ▸ mem)))⟩

theorem Part.sizeOf_lt {step : Step} {n : Node} {v : Json}
    (part : Part doc node value (.part step) n v) : sizeOf v < sizeOf value := by
  cases part with
  | property mem found =>
    have := sizeOf_lt_of_mem (get?_mem found)
    simp; omega
  | single items found =>
    have := List.sizeOf_lt_of_mem (List.mem_of_getElem? found)
    simp; omega
  | tuple items position found =>
    have := List.sizeOf_lt_of_mem (List.mem_of_getElem? found)
    simp; omega

/-- What holds of a check as soon as it holds of those that it goes on to, holds of every check: each
goes to a part of the value, or to a reference not followed at this path, or to a part of the node. -/
theorem walk_induction (doc : Document) {motive : Guard → String → Node → Json → Prop}
    (step : ∀ guard path node value,
      (∀ move n v, Part doc node value move n v → ¬Move.InProgress guard path move →
        motive (move.guard guard path) (move.path path) n v) →
      motive guard path node value)
    (guard : Guard) (path : String) (node : Node) (value : Json) : motive guard path node value :=
  step guard path node value fun move n v _part _fresh =>
    walk_induction doc step (move.guard guard path) (move.path path) n v
termination_by (sizeOf value, unfollowed doc guard path, sizeOf node)
decreasing_by
  cases move with
  | part step => exact Prod.Lex.left _ _ _part.sizeOf_lt
  | branch =>
    obtain ⟨rfl, smaller⟩ := _part.branch_inv
    exact Prod.Lex.right _ (Prod.Lex.right _ smaller)
  | reference place =>
    obtain ⟨rfl, mem⟩ := _part.reference_inv
    have fewer := unfollowed_cons_lt mem (by simpa [Move.InProgress] using _fresh)
    exact Prod.Lex.right _ (Prod.Lex.left _ _ fewer)

end MockApi.Validation
