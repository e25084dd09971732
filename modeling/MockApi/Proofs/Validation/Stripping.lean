import MockApi.Proofs.Json.Table
import MockApi.Proofs.Validation.Visits

/-!
# Members left out

An object is accepted without some of its members where no node at its place demands them, and where the
alternatives at its place exclude each other or have nothing to do with them (`Strippable.accepts`). Of
other alternatives, one that says what a member is like may come to hold when it is left out.
-/

namespace MockApi

namespace Schema.Node

/-- An object is to have the member. -/
def Demands (node : Node) (name : String) : Prop :=
  .object ∈ node.checkedKinds ∧ name ∈ node.required ∨
    ∃ value ∈ node.fixedValues, (value.member? name).isSome = true

/-- Whether an object has the members makes no difference to the node. -/
structure Ignores (node : Node) (dropped : List String) : Prop where
  fixed : ∀ value ∈ node.fixedValues, value.isObject = false
  required : .object ∈ node.checkedKinds → ∀ name ∈ dropped, name ∉ node.required
  properties : .object ∈ node.checkedKinds → ∀ name ∈ dropped, name ∉ Table.names node.properties

end Schema.Node

namespace Json

theorem sameMembers_names {members others : List (String × Json)}
    (same : sameMembers members others = true) : Table.names members = Table.names others := by
  induction members generalizing others with
  | nil =>
    cases others with
    | nil => rfl
    | cons => simp [sameMembers] at same
  | cons entry rest ih =>
    cases others with
    | nil => simp [sameMembers] at same
    | cons other others =>
      simp only [sameMembers, Bool.and_eq_true, beq_iff_eq] at same
      exact congrArg₂ List.cons same.1.1 (ih same.2)

/-- An object that equals a value has the names of that value's members. -/
theorem same_object {members : List (String × Json)} {value : Json}
    (same : (object members).same value = true) :
    ∃ others, value = .object others ∧ Table.names members = Table.names others := by
  cases value with
  | object others => exact ⟨others, rfl, sameMembers_names (by simpa [Json.same] using same)⟩
  | _ => simp [Json.same] at same

end Json

namespace Validation

open Schema

variable {doc : Document} {node n root : Node} {R : Move → Node → Json → Prop}
  {members : List (String × Json)} {dropped : List String} {guard : Guard} {path : String}

/-- Nothing at the place of the node depends on the members. -/
def Indifferent (doc : Document) (dropped : List String) (node : Node) : Prop :=
  ∀ n, SamePlace doc node n → n.Ignores dropped

theorem Indifferent.visit {value : Json} {move : Move} (indifferent : Indifferent doc dropped node)
    (visit : Visit doc node value move n value) (stays : ∀ step, move ≠ .part step) :
    Indifferent doc dropped n :=
  fun m same => indifferent m (.head ⟨_, _, visit, stays⟩ same)

/-- An object that lacks only members that are not demanded meets what it met before. -/
theorem KindMeets.without {kind : Kind} (spared : ∀ name ∈ dropped, name ∉ node.required)
    (meets : KindMeets R node kind (.object members)) :
    KindMeets R node kind (.object (Table.without dropped members)) := by
  obtain ⟨rfl, required, properties⟩ := kindMeets_object_iff.mp meets
  refine .object (fun name mem => ?_) fun name property mem member found => ?_
  · rw [Table.has, Table.get?_without fun gone => spared name gone mem]
    exact required name mem
  · exact properties name property mem member (Table.get?_of_get?_without found).2

theorem kindMeets_without_iff {kind : Kind} (checked : kind ∈ node.checkedKinds)
    (ignores : node.Ignores dropped) :
    KindMeets R node kind (.object members) ↔
      KindMeets R node kind (.object (Table.without dropped members)) := by
  constructor
  · intro meets
    obtain ⟨rfl, -⟩ := kindMeets_object_iff.mp meets
    exact meets.without (ignores.required checked)
  · intro meets
    obtain ⟨rfl, required, properties⟩ := kindMeets_object_iff.mp meets
    refine .object (fun name mem => ?_) fun name property mem member found => ?_
    · rw [Table.has, ← Table.get?_without fun gone => ignores.required checked name gone mem]
      exact required name mem
    · have kept : name ∉ dropped := fun gone =>
        ignores.properties checked name gone (List.mem_map_of_mem mem)
      exact properties name property mem member ((Table.get?_without kept members).trans found)

/-- No object equals a value that is none. -/
theorem same_eq_false {value : Json} (other : value.isObject = false) :
    (Json.object members).same value = false := by
  cases value <;> simp_all [Json.same, Json.isObject]

theorem asks_without_iff {driver : Driver} (own : node.driver = driver)
    (inner : ∀ pointer, driver ≠ .reference pointer) (ignores : node.Ignores dropped)
    (branches : ∀ branch, Visit doc node (.object members) .branch branch (.object members) →
      (R .branch branch (.object members) ↔
        R .branch branch (.object (Table.without dropped members)))) :
    Asks doc R node (.object members) driver ↔
      Asks doc R node (.object (Table.without dropped members)) driver := by
  cases driver with
  | reference pointer => exact absurd rfl (inner pointer)
  | oneOf _ => exact Iff.rfl
  | allOf _ => exact forall₂_congr fun branch mem => branches branch (.allOf own mem)
  | anyOf _ =>
    exact exists_congr fun branch => and_congr_right fun mem => branches branch (.anyOf own mem)
  | constant expected =>
    have other := ignores.fixed expected (by simp [Node.fixedValues, own])
    simp only [Asks, same_eq_false other]
  | enumeration first rest =>
    refine exists_congr fun option => and_congr_right fun mem => ?_
    have other := ignores.fixed option (by simpa [Node.fixedValues, own] using mem)
    rw [same_eq_false other, same_eq_false other]
  | typed kind => exact kindMeets_without_iff (by simp [Node.checkedKinds, own]) ignores
  | union kinds =>
    exact exists_congr fun kind => and_congr_right fun mem =>
      kindMeets_without_iff (by simpa [Node.checkedKinds, own] using mem) ignores
  | untyped => exact Iff.rfl

/-- Where nothing depends on some members, an object is checked alike with them and without them. The
induction goes over the visits at one place. -/
theorem check_without_iff (doc : Document) (members : List (String × Json)) (dropped : List String)
    (guard : Guard) (path : String) (node : Node) (value : Json) :
    value = .object members → Indifferent doc dropped node →
      (check doc guard node (.object members) path = .ok () ↔
        check doc guard node (.object (Table.without dropped members)) path = .ok ()) := by
  induction guard, path, node, value using visit_induction doc with
  | step guard path node value ih =>
    rintro rfl indifferent
    have visit_iff (move : Move) (n : Node)
        (visit : Visit doc node (.object members) move n (.object members))
        (stays : ∀ step, move ≠ .part step) (new : ¬move.InProgress guard path) :
        check doc (move.guard guard path) n (.object members) (move.path path) = .ok () ↔
          check doc (move.guard guard path) n (.object (Table.without dropped members)) (move.path path) =
            .ok () :=
      ih move n _ visit new rfl (indifferent.visit visit stays)
    cases driver : node.driver with
    | oneOf branches =>
      exact check_oneOf_iff driver driver rfl rfl fun branch mem =>
        visit_iff .branch branch (.oneOf driver mem) (by simp) not_false
    | reference pointer =>
      rw [check_driven rfl driver, check_driven rfl driver, driven_reference_eq_ok, driven_reference_eq_ok]
      cases lookup : doc.lookup pointer with
      | internal place target =>
        simp only [Asks, lookup, Accepts]
        by_cases followed : Move.InProgress guard path (.reference place)
        · exact iff_of_true (.inl followed) (.inl followed)
        · exact or_congr_right (visit_iff _ _ (.reference driver lookup) (by simp) followed)
      | external => simp only [Asks, lookup]
      | missing => simp only [Asks, lookup]
    | _ =>
      have single : ∀ branches, node.driver ≠ .oneOf branches := by simp [driver]
      rw [check_eq_ok single, check_eq_ok single, meets_iff_asks rfl driver, meets_iff_asks rfl driver]
      refine asks_without_iff driver (by simp) (indifferent node .refl) fun branch visit => ?_
      rw [accepts_branch, accepts_branch]
      exact visit_iff .branch branch visit (by simp) not_false

/-! ### A whole schema -/

/-- Objects may lack the members where a node is checked: no node at its place demands one of them, and
alternatives there exclude each other, or do not depend on them. -/
structure Strippable (doc : Document) (dropped : List String) (node : Node) : Prop where
  undemanded : ∀ n, SamePlace doc node n → ∀ name ∈ dropped, ¬n.Demands name
  alternatives : ∀ n branches, SamePlace doc node n → n.driver = .oneOf branches →
    Exclusive doc n ∨ Indifferent doc dropped n

theorem Strippable.visit {value : Json} {move : Move} (strippable : Strippable doc dropped node)
    (visit : Visit doc node value move n value) (stays : ∀ step, move ≠ .part step) :
    Strippable doc dropped n where
  undemanded m same := strippable.undemanded m (.head ⟨_, _, visit, stays⟩ same)
  alternatives m branches same := strippable.alternatives m branches (.head ⟨_, _, visit, stays⟩ same)

/-- An object that equals one of the values of a node has none of the members that are not demanded. -/
theorem without_of_same {value : Json} (listed : value ∈ node.fixedValues)
    (undemanded : ∀ name ∈ dropped, ¬node.Demands name)
    (same : (Json.object members).same value = true) : Table.without dropped members = members := by
  obtain ⟨others, rfl, names⟩ := Json.same_object same
  refine Table.without_eq_self fun name gone mem => undemanded name gone (.inr ⟨_, listed, ?_⟩)
  rw [names] at mem
  cases found : Table.get? others name with
  | none => exact absurd mem (Table.get?_eq_none_iff.mp found)
  | some member => simp [Json.member?, found]

theorem Asks.without {driver : Driver} (own : node.driver = driver)
    (undemanded : ∀ name ∈ dropped, ¬node.Demands name)
    (visits : ∀ move n, Visit doc node (.object members) move n (.object members) →
      (∀ step, move ≠ .part step) → R move n (.object members) →
        R move n (.object (Table.without dropped members)))
    (asks : Asks doc R node (.object members) driver) :
    Asks doc R node (.object (Table.without dropped members)) driver := by
  have spared {kind : Kind} (checked : kind ∈ node.checkedKinds)
      (meets : KindMeets R node kind (.object members)) :
      KindMeets R node kind (.object (Table.without dropped members)) := by
    obtain ⟨rfl, -⟩ := kindMeets_object_iff.mp meets
    exact meets.without fun name gone mem => undemanded name gone (.inl ⟨checked, mem⟩)
  cases driver with
  | reference pointer =>
    cases lookup : doc.lookup pointer with
    | internal place target =>
      simp only [Asks, lookup] at asks ⊢
      exact visits _ _ (.reference own lookup) (by simp) asks
    | external => simp only [Asks, lookup]
    | missing => simp only [Asks, lookup] at asks
  | oneOf _ => exact asks.elim
  | allOf _ => exact fun branch mem => visits _ _ (.allOf own mem) (by simp) (asks branch mem)
  | anyOf _ =>
    obtain ⟨branch, mem, holds⟩ := asks
    exact ⟨branch, mem, visits _ _ (.anyOf own mem) (by simp) holds⟩
  | constant expected =>
    have same : (Json.object members).same expected = true := asks
    rwa [without_of_same (by simp [Node.fixedValues, own]) undemanded same]
  | enumeration first rest =>
    obtain ⟨option, mem, same⟩ := asks
    have whole := without_of_same (by simpa [Node.fixedValues, own] using mem) undemanded same
    exact ⟨option, mem, whole.symm ▸ same⟩
  | typed kind => exact spared (by simp [Node.checkedKinds, own]) asks
  | union kinds =>
    obtain ⟨kind, mem, meets⟩ := asks
    exact ⟨kind, mem, spared (by simpa [Node.checkedKinds, own] using mem) meets⟩
  | untyped => trivial

/-- What is accepted is accepted without the members. The induction goes over the visits at one place. -/
theorem Strippable.accepts (doc : Document) (whole : Json) (members : List (String × Json))
    (dropped : List String) (guard : Guard) (path : String) (node : Node) (value : Json) :
    value = .object members → Strippable doc dropped node →
      Call doc whole guard path node (.object (Table.without dropped members)) →
      check doc guard node (.object members) path = .ok () →
      check doc guard node (.object (Table.without dropped members)) path = .ok () := by
  induction guard, path, node, value using visit_induction doc with
  | step guard path node value ih =>
    rintro rfl strippable call accepted
    have onward (move : Move) (n : Node) (visit : Visit doc node (.object members) move n (.object members))
        (stays : ∀ step, move ≠ .part step) (new : ¬move.InProgress guard path) :
        check doc (move.guard guard path) n (.object members) (move.path path) = .ok () →
          check doc (move.guard guard path) n (.object (Table.without dropped members))
            (move.path path) = .ok () :=
      ih move n _ visit new rfl (strippable.visit visit stays)
        (call.visit (visit.elsewhere stays _) new)
    by_cases alternatives : ∃ branches, node.driver = .oneOf branches
    · obtain ⟨branches, driver⟩ := alternatives
      rcases strippable.alternatives node branches .refl driver with exclusive | indifferent
      · obtain ⟨branch, mem, holds⟩ := exists_of_check_oneOf rfl driver accepted
        exact (exclusive.check_iff call driver rfl).mpr
          ⟨branch, mem, onward .branch branch (.oneOf driver mem) (by simp) not_false holds⟩
      · exact (check_without_iff doc members dropped guard path node _ rfl indifferent).mp accepted
    · have single : ∀ branches, node.driver ≠ .oneOf branches := fun branches driver =>
        alternatives ⟨branches, driver⟩
      rw [check_eq_ok single, meets_iff_asks rfl rfl] at accepted ⊢
      refine accepted.without rfl (strippable.undemanded node .refl) fun move n visit stays accepts => ?_
      by_cases followed : move.InProgress guard path
      · exact .inl followed
      · exact .inr (onward move n visit stays followed (accepts.resolve_left followed))

end Validation

end MockApi
