import MockApi.Proofs.Validation.Keywords
import Mathlib.Order.FixedPoints

/-!
# What a schema says

A node holds of a value as far as its keywords ask for it, and its parts hold in turn. Definitions may
refer to themselves, so this is the greatest relation that agrees with its own unfolding
(`Satisfies`). `oneOf` has no place here: a branch that holds more often can make it hold less often,
and such equations need not have a greatest solution.
-/

namespace MockApi.Validation

open Schema

/-! ### Nodes -/

/-- How a check gets from a node and a value to the next: to a branch of the node, to the node behind
a reference, or to a part of the value. -/
inductive Move
  | branch
  | reference (place : Place)
  | part (step : Step)

/-- What an `items` keyword asks of the elements. A tuple asks nothing of those behind it. -/
def ItemsMeet (R : Move → Node → Json → Prop) (items : Option (Items Node)) (elements : List Json) :
    Prop :=
  match items with
  | some (.single item) =>
    ∀ (i : Nat) element, elements[i]? = some element → R (.part (.element i)) item element
  | some (.tuple positions) =>
    ∀ (i : Nat) item element, positions[i]? = some item → elements[i]? = some element →
      R (.part (.element i)) item element
  | none => True

/-- What a node asks of a value of a kind, if `R` says what holds of its parts. -/
inductive KindMeets (R : Move → Node → Json → Prop) (node : Node) : Kind → Json → Prop
  | object {members : List (String × Json)}
      (required : ∀ name ∈ node.required, Table.has members name = true)
      (properties : ∀ name property, (name, property) ∈ node.properties →
        ∀ member, Table.get? members name = some member →
          R (.part (.member name)) property member) :
      KindMeets R node .object (.object members)
  | array {elements : List Json} (length : LengthFits node.toKeywords elements.length)
      (items : ItemsMeet R node.items elements) : KindMeets R node .array (.array elements)
  | string {s : String} (fits : StringFits node.toKeywords s) :
      KindMeets R node .string (.string s)
  | number {n : Json.Number} (fits : NumberFits node.toKeywords n.toBinary64) :
      KindMeets R node .number (.number n)
  | integer {n : Json.Number} (whole : Kind.integer.admits (.number n) = true)
      (fits : NumberFits node.toKeywords n.toBinary64) : KindMeets R node .integer (.number n)
  | boolean {b : Bool} : KindMeets R node .boolean (.bool b)
  | null : KindMeets R node .null .null

/-- What a node asks of a value, if `R` says what holds of its parts: one unfolding. -/
inductive Meets (doc : Document) (R : Move → Node → Json → Prop) (node : Node) (value : Json) : Prop
  | null (isNull : value = .null) (nullable : node.isNullable = true)
  | internal {pointer : String} {place : Place} {target : Node}
      (driver : node.driver = .reference pointer)
      (lookup : doc.lookup pointer = .internal place target)
      (holds : R (.reference place) target value)
  | external {pointer : String} (driver : node.driver = .reference pointer)
      (lookup : doc.lookup pointer = .external)
  | allOf {branches : List Node} (driver : node.driver = .allOf branches)
      (holds : ∀ branch ∈ branches, R .branch branch value)
  | anyOf {branches : List Node} {branch : Node} (driver : node.driver = .anyOf branches)
      (mem : branch ∈ branches) (holds : R .branch branch value)
  | constant {expected : Json} (driver : node.driver = .constant expected)
      (same : value.same expected = true)
  | enumeration {first option : Json} {rest : List Json}
      (driver : node.driver = .enumeration first rest) (mem : option ∈ first :: rest)
      (same : value.same option = true)
  | typed {kind : Kind} (driver : node.driver = .typed kind) (meets : KindMeets R node kind value)
  | union {kinds : List Kind} {kind : Kind} (driver : node.driver = .union kinds)
      (mem : kind ∈ kinds) (meets : KindMeets R node kind value)
  | untyped (driver : node.driver = .untyped)

/-- What a check of a node and a value goes on to. -/
inductive Part (doc : Document) (node : Node) : Json → Move → Node → Json → Prop
  | reference {value : Json} {pointer : String} {place : Place} {target : Node}
      (driver : node.driver = .reference pointer)
      (lookup : doc.lookup pointer = .internal place target) :
      Part doc node value (.reference place) target value
  | allOf {value : Json} {branches : List Node} {branch : Node}
      (driver : node.driver = .allOf branches) (mem : branch ∈ branches) :
      Part doc node value .branch branch value
  | anyOf {value : Json} {branches : List Node} {branch : Node}
      (driver : node.driver = .anyOf branches) (mem : branch ∈ branches) :
      Part doc node value .branch branch value
  | property {members : List (String × Json)} {name : String} {property : Node} {member : Json}
      (mem : (name, property) ∈ node.properties) (found : Table.get? members name = some member) :
      Part doc node (.object members) (.part (.member name)) property member
  | single {elements : List Json} {item : Node} {i : Nat} {element : Json}
      (items : node.items = some (.single item)) (found : elements[i]? = some element) :
      Part doc node (.array elements) (.part (.element i)) item element
  | tuple {elements : List Json} {positions : List Node} {item : Node} {i : Nat} {element : Json}
      (items : node.items = some (.tuple positions)) (position : positions[i]? = some item)
      (found : elements[i]? = some element) :
      Part doc node (.array elements) (.part (.element i)) item element

variable {doc : Document} {R S : Move → Node → Json → Prop} {node : Node} {value : Json}

theorem KindMeets.mono {kind : Kind} (meets : KindMeets R node kind value)
    (weaker : ∀ move n v, Part doc node value move n v → R move n v → S move n v) :
    KindMeets S node kind value := by
  cases meets with
  | object required properties =>
    refine .object required ?_
    intro name property mem member found
    exact weaker _ _ _ (.property mem found) (properties name property mem member found)
  | @array elements length items =>
    refine .array length ?_
    unfold ItemsMeet at items ⊢
    split at items
    · rename_i item h
      exact fun i element found => weaker _ _ _ (.single h found) (items i element found)
    · rename_i positions h
      exact fun i item element position found =>
        weaker _ _ _ (.tuple h position found) (items i item element position found)
    · trivial
  | string fits => exact .string fits
  | number fits => exact .number fits
  | integer whole fits => exact .integer whole fits
  | boolean => exact .boolean
  | null => exact .null

/-- An unfolding asks only about the parts. -/
theorem Meets.mono (meets : Meets doc R node value)
    (weaker : ∀ move n v, Part doc node value move n v → R move n v → S move n v) :
    Meets doc S node value := by
  cases meets with
  | null isNull nullable => exact .null isNull nullable
  | internal driver lookup holds =>
    exact .internal driver lookup (weaker _ _ _ (.reference driver lookup) holds)
  | external driver lookup => exact .external driver lookup
  | allOf driver holds =>
    exact .allOf driver fun branch mem =>
      weaker _ _ _ (.allOf driver mem) (holds branch mem)
  | anyOf driver mem holds =>
    exact .anyOf driver mem (weaker _ _ _ (.anyOf driver mem) holds)
  | constant driver same => exact .constant driver same
  | enumeration driver mem same => exact .enumeration driver mem same
  | typed driver meets => exact .typed driver (meets.mono weaker)
  | union driver mem meets => exact .union driver mem (meets.mono weaker)
  | untyped driver => exact .untyped driver

/-! ### An unfolding by driver -/

/-- What a node with a driver asks of a value that its being null does not settle. -/
def Asks (doc : Document) (R : Move → Node → Json → Prop) (node : Node) (value : Json) :
    Driver → Prop
  | .reference pointer =>
    match doc.lookup pointer with
    | .internal place target => R (.reference place) target value
    | .external => True
    | .missing => False
  | .allOf branches => ∀ branch ∈ branches, R .branch branch value
  | .anyOf branches => ∃ branch ∈ branches, R .branch branch value
  | .oneOf _ => False
  | .constant expected => value.same expected = true
  | .enumeration first rest => ∃ option ∈ first :: rest, value.same option = true
  | .typed kind => KindMeets R node kind value
  | .union kinds => ∃ kind ∈ kinds, KindMeets R node kind value
  | .untyped => True

section

variable (present : (value.isNull && node.isNullable) = false)
include present

theorem Meets.asks {driver : Driver} (meets : Meets doc R node value) (hd : node.driver = driver) :
    Asks doc R node value driver := by
  cases meets with
  | null isNull nullable => simp [isNull, nullable, Json.isNull] at present
  | internal driver lookup holds =>
    cases hd.symm.trans driver
    simpa only [Asks, lookup] using holds
  | external driver lookup =>
    cases hd.symm.trans driver
    simp only [Asks, lookup]
  | allOf driver holds =>
    cases hd.symm.trans driver
    exact holds
  | anyOf driver mem holds =>
    cases hd.symm.trans driver
    exact ⟨_, mem, holds⟩
  | constant driver same =>
    cases hd.symm.trans driver
    exact same
  | enumeration driver mem same =>
    cases hd.symm.trans driver
    exact ⟨_, mem, same⟩
  | typed driver meets =>
    cases hd.symm.trans driver
    exact meets
  | union driver mem meets =>
    cases hd.symm.trans driver
    exact ⟨_, mem, meets⟩
  | untyped driver =>
    cases hd.symm.trans driver
    trivial

omit present in
theorem Meets.of_asks {driver : Driver} (hd : node.driver = driver)
    (asks : Asks doc R node value driver) : Meets doc R node value := by
  cases driver with
  | reference pointer =>
    cases lookup : doc.lookup pointer with
    | internal place target => exact .internal hd lookup (by simpa only [Asks, lookup] using asks)
    | external => exact .external hd lookup
    | missing => simp only [Asks, lookup] at asks
  | allOf branches => exact .allOf hd asks
  | anyOf branches =>
    obtain ⟨branch, mem, holds⟩ := asks
    exact .anyOf hd mem holds
  | oneOf branches => exact asks.elim
  | constant expected => exact .constant hd asks
  | enumeration first rest =>
    obtain ⟨option, mem, same⟩ := asks
    exact .enumeration hd mem same
  | typed kind => exact .typed hd asks
  | union kinds =>
    obtain ⟨kind, mem, meets⟩ := asks
    exact .union hd mem meets
  | untyped => exact .untyped hd

theorem meets_iff_asks {driver : Driver} (hd : node.driver = driver) :
    Meets doc R node value ↔ Asks doc R node value driver :=
  ⟨fun meets => meets.asks present hd, .of_asks hd⟩

theorem meets_internal {pointer : String} {place : Place} {target : Node}
    (driver : node.driver = .reference pointer) (lookup : doc.lookup pointer = .internal place target) :
    Meets doc R node value ↔ R (.reference place) target value := by
  simp only [meets_iff_asks present driver, Asks, lookup]

theorem meets_typed {kind : Kind} (driver : node.driver = .typed kind) :
    Meets doc R node value ↔ KindMeets R node kind value :=
  meets_iff_asks present driver

end

/-! ### The greatest solution -/

/-- The equations of a document as an operator on relations. -/
def unfolding (doc : Document) : (Node → Json → Prop) →o (Node → Json → Prop) where
  toFun R := Meets doc fun _ => R
  monotone' _ _ le _ _ meets := meets.mono fun _ n v _ => le n v

/-- A node of the document holds of a value: the greatest relation that agrees with its unfolding. -/
def Satisfies (doc : Document) : Node → Json → Prop := (unfolding doc).gfp

theorem satisfies_iff : Satisfies doc node value ↔ Meets doc (fun _ => Satisfies doc) node value := by
  have fixed : unfolding doc (Satisfies doc) = Satisfies doc := (unfolding doc).map_gfp
  exact iff_of_eq (congrFun (congrFun fixed node) value).symm

/-- A relation that says no more than its unfolding lies in the greatest one. -/
theorem Satisfies.of_closed {Q : Node → Json → Prop}
    (closed : ∀ n v, Q n v → Meets doc (fun _ => Q) n v) (h : Q node value) :
    Satisfies doc node value :=
  (unfolding doc).le_gfp closed node value h

end MockApi.Validation
