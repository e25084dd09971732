import MockApi.Proofs.Json.Table
import MockApi.Proofs.Validation.Visits
import Mathlib.Data.Multiset.MapFold

/-!
# Alternatives in another order

A document may list the branches of a composition, the names that it requires, the values of an enumeration
and the types of a union in any order (`Document.Reordered`): what is accepted is the same
(`checkBody_reordered_iff`). Which failure is reported may be another, since the first one is.
-/

namespace MockApi

namespace Schema

/-! ### Nodes in another order -/

inductive TypeSet.Reordered : TypeSet → TypeSet → Prop
  | single (kind : Kind) : Reordered (.single kind) (.single kind)
  | union {kinds kinds' : List Kind} (order : kinds.Perm kinds') :
      Reordered (.union kinds) (.union kinds')

/-- The same keywords, but for the order of types, required names and enumerated values. -/
structure Keywords.Reordered (k k' : Keywords) : Prop where
  type : Option.Rel TypeSet.Reordered k.type k'.type
  required : k.required.Perm k'.required
  enumeration : Option.Rel List.Perm k.enumeration k'.enumeration
  others : k' = { k with type := k'.type, required := k'.required, enumeration := k'.enumeration }

theorem Keywords.Reordered.refl (k : Keywords) : k.Reordered k where
  type := by
    cases k.type with
    | none => exact .none
    | some type =>
      cases type with
      | single kind => exact .some (.single kind)
      | union kinds => exact .some (.union (.refl kinds))
  required := .refl k.required
  enumeration := by
    cases k.enumeration with
    | none => exact .none
    | some values => exact .some (.refl values)
  others := rfl

/-- Items of one form, and related where they stand. -/
inductive Items.Rel {α β : Type} (R : α → β → Prop) : Items α → Items β → Prop
  | tuple {positions : List α} {positions' : List β} (each : List.Forall₂ R positions positions') :
      Rel R (.tuple positions) (.tuple positions')
  | single {item : α} {item' : β} (same : R item item') : Rel R (.single item) (.single item')

/-- The same node, but for the order of what its keywords list, and of the branches of its compositions;
and so for all nodes in it. -/
inductive Node.Reordered : Node → Node → Prop
  | of {n n' : Node} (keywords : n.toKeywords.Reordered n'.toKeywords)
      (properties : Table.Rel Reordered n.properties n'.properties)
      (items : Option.Rel (Items.Rel Reordered) n.items n'.items)
      (oneOf : Multiset.Rel Reordered n.oneOf n'.oneOf)
      (anyOf : Multiset.Rel Reordered n.anyOf n'.anyOf)
      (allOf : Multiset.Rel Reordered n.allOf n'.allOf)
      (definitions : Table.Rel Reordered n.definitions n'.definitions)
      (defs : Table.Rel Reordered n.defs n'.defs) : Reordered n n'

/-- Drivers of nodes that are the same but for the order. -/
inductive Driver.Reordered : Driver → Driver → Prop
  | reference (pointer : String) : Reordered (.reference pointer) (.reference pointer)
  | oneOf {branches branches' : List Node} (rel : Multiset.Rel Node.Reordered branches branches') :
      Reordered (.oneOf branches) (.oneOf branches')
  | anyOf {branches branches' : List Node} (rel : Multiset.Rel Node.Reordered branches branches') :
      Reordered (.anyOf branches) (.anyOf branches')
  | allOf {branches branches' : List Node} (rel : Multiset.Rel Node.Reordered branches branches') :
      Reordered (.allOf branches) (.allOf branches')
  | constant (value : Json) : Reordered (.constant value) (.constant value)
  | enumeration {first first' : Json} {rest rest' : List Json}
      (order : (first :: rest).Perm (first' :: rest')) :
      Reordered (.enumeration first rest) (.enumeration first' rest')
  | typed (kind : Kind) : Reordered (.typed kind) (.typed kind)
  | union {kinds kinds' : List Kind} (order : kinds.Perm kinds') :
      Reordered (.union kinds) (.union kinds')
  | untyped : Reordered .untyped .untyped

theorem isSome_eq_of_rel {α β : Type} {R : α → β → Prop} {a : Option α} {b : Option β}
    (rel : Option.Rel R a b) : b.isSome = a.isSome := by
  cases rel <;> rfl

theorem isEmpty_eq_of_rel {α β : Type} {R : α → β → Prop} {as : List α} {bs : List β}
    (rel : Multiset.Rel R (as : Multiset α) bs) : bs.isEmpty = as.isEmpty := by
  have lengths : as.length = bs.length := Multiset.card_eq_card_of_rel rel
  rw [Bool.eq_iff_iff, List.isEmpty_iff_length_eq_zero, List.isEmpty_iff_length_eq_zero, lengths]

/-- Each is related to one of a list, in whatever order that list is. -/
theorem rel_of_perm {α β : Type} {R : α → β → Prop} {as : List α} {bs cs : List β}
    (each : List.Forall₂ R as bs) (order : bs.Perm cs) : Multiset.Rel R (as : Multiset α) cs := by
  rw [← Multiset.coe_eq_coe.mpr order]
  induction each generalizing cs with
  | nil => exact .zero
  | cons same _ ih => exact .cons same (ih (.refl _))

namespace Node.Reordered

variable {n n' : Node}

theorem of_keywords {k k' : Keywords} (keywords : k.Reordered k') :
    Node.Reordered { toKeywords := k } { toKeywords := k' } :=
  .of keywords .nil .none .zero .zero .zero .nil .nil

theorem keywords (same : n.Reordered n') : n.toKeywords.Reordered n'.toKeywords := by
  cases same with
  | of keywords => exact keywords

theorem properties (same : n.Reordered n') : Table.Rel Node.Reordered n.properties n'.properties := by
  cases same with
  | of _ properties => exact properties

theorem items (same : n.Reordered n') : Option.Rel (Items.Rel Node.Reordered) n.items n'.items := by
  cases same with
  | of _ _ items => exact items

theorem isNullable (same : n.Reordered n') : n'.isNullable = n.isNullable := by
  have nullable : n'.nullable = n.nullable := by rw [same.keywords.others]
  have type := same.keywords.type
  unfold Node.isNullable
  rw [nullable]
  generalize n.type = t, n'.type = t' at type ⊢
  cases type with
  | none => rfl
  | some rel =>
    cases rel with
    | single kind => rfl
    | union order => exact congrArg (n.nullable.getD false || ·) order.contains_eq.symm

theorem inferredKind (same : n.Reordered n') : n'.inferredKind = n.inferredKind := by
  cases same with
  | of keywords properties items =>
    unfold Node.inferredKind
    rw [properties.isEmpty_eq, isSome_eq_of_rel items, keywords.others, keywords.required.isEmpty_eq]

/-- A union of at most one type means the same in any order, and one of more types stays one. -/
theorem typeDriver (same : n.Reordered n') : Driver.Reordered n.typeDriver n'.typeDriver := by
  have type := same.keywords.type
  unfold Node.typeDriver
  rw [same.inferredKind]
  generalize n.inferredKind = inferred
  generalize n.type = t, n'.type = t' at type ⊢
  cases type with
  | none => cases inferred <;> constructor
  | some rel =>
    cases rel with
    | single kind => exact .typed kind
    | @union kinds kinds' order =>
      rcases kinds with _ | ⟨first, _ | ⟨second, rest⟩⟩
      · rw [List.nil_perm.mp order]
        cases inferred <;> constructor
      · rw [← List.singleton_perm.mp order]
        exact .typed first
      · have length := order.length_eq
        rcases kinds' with _ | ⟨first', _ | ⟨second', rest'⟩⟩
        · cases length
        · cases length
        · exact .union order

theorem driver (same : n.Reordered n') : Driver.Reordered n.driver n'.driver := by
  have typed := same.typeDriver
  cases same with
  | of keywords properties items oneOf anyOf allOf =>
    have reference : n'.reference = n.reference := by rw [keywords.others]
    have constant : n'.constant = n.constant := by rw [keywords.others]
    have enumeration := keywords.enumeration
    unfold Node.driver
    rw [reference, constant, isEmpty_eq_of_rel oneOf, isEmpty_eq_of_rel anyOf, isEmpty_eq_of_rel allOf]
    split
    · exact .reference _
    split
    · exact .oneOf oneOf
    split
    · exact .anyOf anyOf
    split
    · exact .allOf allOf
    split
    · exact .constant _
    generalize n.enumeration = e, n'.enumeration = e' at enumeration ⊢
    cases enumeration with
    | none => exact typed
    | @some values values' order =>
      cases values with
      | nil =>
        rw [List.nil_perm.mp order]
        exact typed
      | cons first rest =>
        cases values' with
        | nil => cases order.length_eq
        | cons first' rest' => exact .enumeration order

/-- A node is in its own order. -/
theorem refl (n : Node) : n.Reordered n := by
  have keywords : n.toKeywords.Reordered n.toKeywords := .refl n.toKeywords
  have listed {nodes : List Node} (smaller : sizeOf nodes < sizeOf n) :
      ∀ inner ∈ nodes, inner.Reordered inner := fun inner mem =>
    have inside := List.sizeOf_lt_of_mem mem
    refl inner
  have named {table : Table Node} (smaller : sizeOf table < sizeOf n) :
      Table.Rel Node.Reordered table table :=
    .refl_on fun name inner mem =>
      have inside := Validation.sizeOf_lt_of_mem mem
      refl inner
  obtain ⟨k, properties, items, oneOf, anyOf, allOf, definitions, defs⟩ := n
  have items : Option.Rel (Items.Rel Node.Reordered) items items := by
    cases items with
    | none => exact .none
    | some items =>
      cases items with
      | tuple positions =>
        refine .some (.tuple (List.forall₂_same.mpr (listed ?_)))
        simp only [Node.mk.sizeOf_spec, Option.some.sizeOf_spec, Items.tuple.sizeOf_spec]
        omega
      | single item => exact .some (.single (refl item))
  refine .of keywords (named ?_) items (Multiset.rel_refl_of_refl_on (listed ?_))
    (Multiset.rel_refl_of_refl_on (listed ?_)) (Multiset.rel_refl_of_refl_on (listed ?_)) (named ?_)
    (named ?_)
  all_goals
    simp only [Node.mk.sizeOf_spec]
    omega
termination_by sizeOf n
decreasing_by
  · exact inside.trans smaller
  · exact inside.trans smaller
  · simp only [Node.mk.sizeOf_spec, Option.some.sizeOf_spec, Items.single.sizeOf_spec]
    omega

end Node.Reordered

/-! ### Documents in another order -/

/-- The same document, but for the order in its root and its definitions. -/
structure Document.Reordered (doc doc' : Document) : Prop where
  root : doc.root.Reordered doc'.root
  definitions : Table.Rel Node.Reordered doc.definitions doc'.definitions
  title : doc'.title = doc.title

/-- What the same reference leads to. -/
inductive Target.Reordered : Target → Target → Prop
  | internal (place : Place) {node node' : Node} (same : node.Reordered node') :
      Reordered (.internal place node) (.internal place node')
  | external : Reordered .external .external
  | missing : Reordered .missing .missing

theorem Document.Reordered.lookup {doc doc' : Document} (same : doc.Reordered doc') (pointer : String) :
    Target.Reordered (doc.lookup pointer) (doc'.lookup pointer) := by
  unfold Document.lookup
  split
  · exact .external
  split
  · exact .internal .root same.root
  split
  · exact .missing
  · rename_i name _
    have named := same.definitions.get? name
    generalize Table.get? doc.definitions name = found, Table.get? doc'.definitions name = found' at named ⊢
    cases named with
    | none => exact .missing
    | some same => exact .internal (.definition name) same

namespace Keywords.Reordered

open Validation

variable {k k' : Keywords}

theorem stringFits_iff (same : k.Reordered k') {s : String} : StringFits k s ↔ StringFits k' s := by
  rw [← stringFault_eq_none, ← stringFault_eq_none, same.others]
  rfl

theorem lengthFits_iff (same : k.Reordered k') {length : Nat} :
    LengthFits k length ↔ LengthFits k' length := by
  rw [← lengthFault_eq_none, ← lengthFault_eq_none, same.others]
  rfl

theorem numberFits_iff (same : k.Reordered k') {n : Json.Number} :
    NumberFits k n.toBinary64 ↔ NumberFits k' n.toBinary64 := by
  rw [← numberFault_eq_none n.toBinary64_ne_nan, ← numberFault_eq_none n.toBinary64_ne_nan, same.others]
  rfl

end Keywords.Reordered

end Schema

namespace Validation

open Schema

variable {doc doc' : Document} {R R' : Move → Node → Json → Prop} {guard : Guard} {node node' : Node}
  {value : Json} {path : String}

/-! ### What is asked of a value -/

theorem rel_getElem?_of_forall₂ {α β : Type} {R : α → β → Prop} {as : List α} {bs : List β}
    (each : List.Forall₂ R as bs) (i : Nat) : Option.Rel R as[i]? bs[i]? := by
  induction each generalizing i with
  | nil => exact .none
  | cons first rest ih =>
    cases i with
    | zero => exact .some first
    | succ i => exact ih i

theorem itemsMeet_reordered_iff {elements : List Json} (checked : .array ∈ node.checkedKinds)
    (same : node.Reordered node')
    (alike : ∀ move n n' v, Visit doc node (.array elements) move n v → n.Reordered n' →
      (R move n v ↔ R' move n' v)) :
    ItemsMeet R node.items elements ↔ ItemsMeet R' node'.items elements := by
  have rel := same.items
  generalize own : node.items = items, node'.items = items' at rel ⊢
  cases rel with
  | none => exact Iff.rfl
  | some rel =>
    cases rel with
    | single same =>
      exact forall₂_congr fun i element => forall_congr' fun found =>
        alike _ _ _ _ (.single checked own found) same
    | @tuple positions positions' each =>
      refine forall_congr' fun i => ?_
      have rel := rel_getElem?_of_forall₂ each i
      generalize position : positions[i]? = p, positions'[i]? = p' at rel ⊢
      cases rel with
      | none => exact iff_of_true nofun nofun
      | @some item item' same =>
        have here (element : Json) (found : elements[i]? = some element) :
            R (.part (.element i)) item element ↔ R' (.part (.element i)) item' element :=
          alike _ _ _ _ (.tuple checked own position found) same
        constructor
        · rintro meets _ element ⟨⟩ found
          exact (here element found).mp (meets item element rfl found)
        · rintro meets _ element ⟨⟩ found
          exact (here element found).mpr (meets item' element rfl found)

theorem kindMeets_reordered_iff {kind : Kind} (checked : kind ∈ node.checkedKinds)
    (same : node.Reordered node')
    (alike : ∀ move n n' v, Visit doc node value move n v → n.Reordered n' →
      (R move n v ↔ R' move n' v)) :
    KindMeets R node kind value ↔ KindMeets R' node' kind value := by
  have keywords := same.keywords
  cases value with
  | object members =>
    rw [kindMeets_object_iff, kindMeets_object_iff]
    refine and_congr_right fun is => and_congr ?_ ?_
    · simp only [keywords.required.mem_iff]
    · have properties := same.properties.forall_mem_iff
        (P := fun name property => ∀ member, Table.get? members name = some member →
          R (.part (.member name)) property member)
        (Q := fun name property => ∀ member, Table.get? members name = some member →
          R' (.part (.member name)) property member)
        fun name property property' mem same => forall₂_congr fun member found =>
          alike _ _ _ _ (.property (is ▸ checked) mem found) same
      simpa only [Prod.forall] using properties
  | array elements =>
    rw [kindMeets_array_iff, kindMeets_array_iff]
    exact and_congr_right fun is => and_congr keywords.lengthFits_iff
      (itemsMeet_reordered_iff (is ▸ checked) same alike)
  | string s =>
    rw [kindMeets_string_iff, kindMeets_string_iff, keywords.stringFits_iff]
  | number n =>
    rw [kindMeets_number_iff, kindMeets_number_iff, keywords.numberFits_iff]
  | bool b | null => constructor <;> intro meets <;> cases meets <;> constructor

/-! ### Branches in another order -/

theorem perm_map_of_rel {α β γ : Type} {R : α → β → Prop} {as : List α} {bs : List β} {f : α → γ} {g : β → γ}
    (rel : Multiset.Rel R (as : Multiset α) bs) (alike : ∀ a ∈ as, ∀ b, R a b → f a = g b) :
    (as.map f).Perm (bs.map g) := by
  rw [← Multiset.coe_eq_coe, ← Multiset.map_coe, ← Multiset.map_coe, ← Multiset.rel_eq, Multiset.rel_map]
  exact rel.mono fun a mem b _ same => alike a mem b same

theorem driven_reordered_iff (documents : doc.Reordered doc') {driver driver' : Driver}
    (own : node.driver = driver) (drivers : driver.Reordered driver') (same : node.Reordered node')
    (alike : ∀ move n n' v, Visit doc node value move n v → n.Reordered n' →
      (Accepts doc guard path move n v ↔ Accepts doc' guard path move n' v)) :
    driven doc guard node value path driver = .ok () ↔
      driven doc' guard node' value path driver' = .ok () := by
  have verdicts {branches branches' : List Node} (rel : Multiset.Rel Node.Reordered branches branches')
      (visit : ∀ branch ∈ branches, Visit doc node value .branch branch value) :
      (branches.map fun branch => (check doc guard branch value path).isOk).Perm
        (branches'.map fun branch => (check doc' guard branch value path).isOk) := by
    refine perm_map_of_rel rel fun branch mem branch' same => ?_
    rw [Bool.eq_iff_iff, isOk_iff, isOk_iff, ← accepts_branch, ← accepts_branch]
    exact alike _ _ _ _ (visit branch mem) same
  cases drivers with
  | reference pointer =>
    rw [driven_reference_eq_ok, driven_reference_eq_ok]
    have targets := documents.lookup pointer
    simp only [Asks]
    generalize found : doc.lookup pointer = target, doc'.lookup pointer = target' at targets ⊢
    cases targets with
    | internal place same => exact alike _ _ _ _ (.reference own found) same
    | external | missing => exact Iff.rfl
  | oneOf rel =>
    have counts := (verdicts rel fun branch mem => .oneOf own mem).countP_eq id
    rw [List.countP_map, List.countP_map] at counts
    rw [driven, driven, ite_fail_eq_ok, ite_fail_eq_ok]
    exact counts ▸ Iff.rfl
  | anyOf rel =>
    have found := (verdicts rel fun branch mem => .anyOf own mem).any_eq (f := id)
    rw [List.any_map, List.any_map] at found
    rw [driven, driven, ite_fail_eq_ok, ite_fail_eq_ok]
    exact found ▸ Iff.rfl
  | allOf rel =>
    have all := (verdicts rel fun branch mem => .allOf own mem).all_eq (f := id)
    rw [List.all_map, List.all_map, Bool.eq_iff_iff, List.all_eq_true, List.all_eq_true] at all
    rw [driven, driven, checkAll_eq_ok, checkAll_eq_ok]
    simpa only [Function.comp_apply, id, isOk_iff] using all
  | constant expected => exact Iff.rfl
  | enumeration order =>
    rw [driven, driven, ite_fail_eq_ok, ite_fail_eq_ok, order.any_eq]
  | typed kind =>
    rw [driven, driven, checkKind_eq_ok, checkKind_eq_ok]
    exact kindMeets_reordered_iff (by simp [Node.checkedKinds, own]) same alike
  | @union kinds kinds' order =>
    rw [driven_union_eq_ok, driven_union_eq_ok]
    simp only [Asks, ← order.mem_iff]
    exact exists_congr fun kind => and_congr_right fun mem =>
      kindMeets_reordered_iff (by simpa [Node.checkedKinds, own] using mem) same alike
  | untyped => exact Iff.rfl

/-! ### Whole checks -/

/-- A node is checked alike in both documents. The induction goes over the visits of the first, and the
same references are being followed on both sides. -/
theorem check_reordered_iff (documents : doc.Reordered doc') (guard : Guard) (path : String) (node : Node)
    (value : Json) : ∀ node', node.Reordered node' →
      (check doc guard node value path = .ok () ↔ check doc' guard node' value path = .ok ()) := by
  induction guard, path, node, value using visit_induction doc with
  | step guard path node value ih =>
    intro node' same
    have nullable := same.isNullable
    cases present : value.isNull && node.isNullable with
    | true => exact iff_of_true (check_null present) (check_null (nullable ▸ present))
    | false =>
      rw [check_driven present rfl, check_driven (nullable ▸ present) rfl]
      refine driven_reordered_iff documents rfl same.driver same fun move n n' v visit inner => ?_
      by_cases followed : move.InProgress guard path
      · exact iff_of_true (.inl followed) (.inl followed)
      · exact or_congr_right (ih move n v visit followed n' inner)

/-- A body is accepted by a document exactly if it is accepted by the document in any other order. -/
theorem checkBody_reordered_iff (documents : doc.Reordered doc') (body : Option Json) :
    checkBody doc body = .ok () ↔ checkBody doc' body = .ok () :=
  check_reordered_iff documents [] rootPath doc.root (body.getD .null) doc'.root documents.root

/-! ### Tags in two orders -/

namespace Tags

/-- A text or none, or a flag. -/
def tag (order : {α : Type} → List α → List α) : Node where
  anyOf := order [{ type := some (.union (order [.string, .null])) },
    { enumeration := some (order [.bool true, .bool false]) }]

/-- A tag, or something that has one and a name. -/
def tagged (order : {α : Type} → List α → List α) : Document where
  root := { oneOf := order [{ reference := some "#/definitions/tag" },
    { type := some (.single .object), required := order ["name", "tag"] }] }
  definitions := [("tag", tag order)]

theorem reordered_tagged : (tagged id).Reordered (tagged List.reverse) where
  root :=
    have named : Node.Reordered { type := some (.single .object), required := ["name", "tag"] }
        { type := some (.single .object), required := ["tag", "name"] } :=
      .of_keywords ⟨.some (.single .object), .swap _ _ _, .none, rfl⟩
    .of (.refl {}) .nil .none (rel_of_perm (.cons (.refl _) (.cons named .nil)) (.swap _ _ _))
      .zero .zero .nil .nil
  definitions :=
    have typed : Node.Reordered { type := some (.union [.string, .null]) }
        { type := some (.union [.null, .string]) } :=
      .of_keywords ⟨.some (.union (.swap _ _ _)), .refl _, .none, rfl⟩
    have flag : Node.Reordered { enumeration := some [.bool true, .bool false] }
        { enumeration := some [.bool false, .bool true] } :=
      .of_keywords ⟨.none, .refl _, .some (.swap _ _ _), rfl⟩
    .cons (.of (.refl {}) .nil .none .zero (rel_of_perm (.cons typed (.cons flag .nil)) (.swap _ _ _))
      .zero .nil .nil) .nil
  title := rfl

theorem check_text (guard : Guard) : check (tagged id) guard (tag id) (.string "small") rootPath = .ok () := by
  have union : ({ type := some (.union [.string, .null]) } : Node).driver = .union [.string, .null] := rfl
  have typed : check (tagged id) guard { type := some (.union [.string, .null]) } (.string "small") rootPath =
      .ok () := by
    rw [check_driven rfl union, driven_union_eq_ok]
    exact ⟨.string, List.mem_cons_self, .string (stringFault_eq_none.mp rfl)⟩
  have driver : (tag id).driver = .anyOf [{ type := some (.union [.string, .null]) },
      { enumeration := some [.bool true, .bool false] }] := rfl
  rw [check_driven rfl driver, driven, ite_fail_eq_ok, List.any_cons, typed]
  rfl

theorem checkBody_text : checkBody (tagged id) (some (.string "small")) = .ok () := by
  have driver : (tagged id).root.driver = .oneOf [{ reference := some "#/definitions/tag" },
      { type := some (.single .object), required := ["name", "tag"] }] := rfl
  have lookup : (tagged id).lookup "#/definitions/tag" = .internal (.definition "tag") (tag id) := rfl
  have first : check (tagged id) [] { reference := some "#/definitions/tag" } (.string "small") rootPath =
      .ok () :=
    (check_internal_eq_ok rfl rfl lookup).mpr (.inr (check_text _))
  show check (tagged id) [] (tagged id).root (.string "small") rootPath = .ok ()
  rw [check_driven rfl driver, driven, List.countP_cons, List.countP_singleton, first,
    check_typed rfl rfl, checkKind_refused rfl]
  rfl

end Tags

theorem checkBody_reordered_iff_tagged :
    (Tags.tagged id).Reordered (Tags.tagged List.reverse) ∧
      checkBody (Tags.tagged List.reverse) (some (.string "small")) = .ok () :=
  ⟨Tags.reordered_tagged, (checkBody_reordered_iff Tags.reordered_tagged _).mp Tags.checkBody_text⟩

end Validation

end MockApi
