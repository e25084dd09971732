import MockApi.Proofs.Validation.Guard

/-!
# Failures point at what is wrong

A failed check reports a path, and what stands there. The path is the text of steps into the value, and
they lead to what is reported, or past an object to a member that it has to have and lacks
(`check_failure_located`). A call fails for a reason of its own or as one of its parts does (`Fails`), and the
path grows with the steps on the way down to that part.
-/

namespace MockApi.Validation

open Schema

/-- What is expected where a member is required. -/
def requiredProperty : String := "required property"

/-- The path of a failure is the text of steps into the value. They reach what it shows, or they reach an
object that lacks a required member, and that member is the last step. -/
def Failure.PointsInto (failure : Failure) (value : Json) : Prop :=
  ∃ steps, renderPath steps = failure.path ∧
    (follow steps value = some failure.actual ∨
      failure.expected = requiredProperty ∧ failure.actual = .null ∧
        ∃ above name members, steps = above ++ [.member name] ∧
          follow above value = some (.object members) ∧ Table.get? members name = none)

variable {doc : Document} {guard : Guard} {node : Node} {value : Json} {path : String}
  {failure : Failure}

/-- Why a call fails: for a reason of its own, for a member that is not there, or with a part. -/
inductive Fails (doc : Document) (guard : Guard) (path : String) (node : Node) (value : Json)
    (failure : Failure) : Prop
  | here (at_path : failure.path = path) (shown : failure.actual = value)
  | absent {members : List (String × Json)} {name : String} (object : value = .object members)
      (lacks : Table.get? members name = none)
      (report : failure = ⟨childPath path name, requiredProperty, .null⟩)
  | part {move : Move} {n : Node} {v : Json} (part : Part doc node value move n v)
      (new : ¬move.InProgress guard path)
      (failed : check doc (move.guard guard path) n v (move.path path) = .error failure)

/-! ### One call -/

theorem exists_of_checkAll_error {α : Type} {entries : List α}
    {test : (x : α) → x ∈ entries → Except Failure Unit} (failed : checkAll entries test = .error failure) :
    ∃ x, ∃ mem : x ∈ entries, test x mem = .error failure := by
  induction entries with
  | nil => cases failed
  | cons x rest ih =>
    rw [checkAll] at failed
    cases first : test x List.mem_cons_self with
    | error other =>
      rw [first] at failed
      exact ⟨x, List.mem_cons_self, first.trans failed⟩
    | ok u =>
      rw [first] at failed
      obtain ⟨y, mem, failed⟩ := ih failed
      exact ⟨y, List.mem_cons_of_mem x mem, failed⟩

theorem fails_of_fail {expected : String} (failed : fail path expected value = .error failure) :
    Fails doc guard path node value failure := by
  cases failed
  exact .here rfl rfl

theorem fails_of_failIf {fault : Option String} (failed : failIf fault path value = .error failure) :
    Fails doc guard path node value failure := by
  cases fault with
  | none => cases failed
  | some expected => exact fails_of_fail failed

theorem fails_of_ite {p : Prop} [Decidable p] {expected : String}
    (failed : (if p then .ok () else fail path expected value) = .error failure) :
    Fails doc guard path node value failure := by
  split at failed
  · cases failed
  · exact fails_of_fail failed

theorem get?_of_missingMember {required : List String} {members : List (String × Json)} {name : String}
    (missing : missingMember required members = some name) : Table.get? members name = none := by
  have lacks := List.find?_some missing
  simpa [Table.has] using lacks

theorem fails_of_object {members : List (String × Json)}
    (failed : checkKind doc guard node .object (.object members) path = .error failure) :
    Fails doc guard path node (.object members) failure := by
  rw [checkKind_object] at failed
  cases missing : missingMember node.required members with
  | some name =>
    rw [missing] at failed
    cases failed
    exact .absent rfl (get?_of_missingMember missing) rfl
  | none =>
    rw [missing] at failed
    obtain ⟨⟨name, property⟩, mem, failed⟩ := exists_of_checkAll_error failed
    cases found : Table.get? members name with
    | none =>
      rw [found] at failed
      cases failed
    | some member =>
      rw [found] at failed
      exact .part (.property mem found) id failed

theorem fails_of_array {elements : List Json}
    (failed : checkKind doc guard node .array (.array elements) path = .error failure) :
    Fails doc guard path node (.array elements) failure := by
  rw [checkKind_array] at failed
  split at failed
  · exact fails_of_fail failed
  · split at failed
    · rename_i item items
      obtain ⟨⟨element, i⟩, mem, failed⟩ := exists_of_checkAll_error failed
      exact .part (.single items (List.mem_zipIdx_iff_getElem?.mp mem)) id failed
    · rename_i positions items
      obtain ⟨⟨index, item, element⟩, mem, failed⟩ := exists_of_checkAll_error failed
      obtain ⟨i, rfl, position, found⟩ := mem_zipIndexed.mp mem
      rw [Nat.zero_add] at failed
      exact .part (.tuple items position found) id failed
    · cases failed

theorem fails_of_checkKind {kind : Kind}
    (failed : checkKind doc guard node kind value path = .error failure) :
    Fails doc guard path node value failure := by
  by_cases admits : kind.admits value = true
  · cases kind <;> cases value <;> simp only [Kind.admits, Bool.false_eq_true] at admits
    case object.object => exact fails_of_object failed
    case array.array => exact fails_of_array failed
    case string.string => exact fails_of_failIf (checkKind_string.symm.trans failed)
    case number.number => exact fails_of_failIf (checkKind_number.symm.trans failed)
    case integer.number => exact fails_of_failIf ((checkKind_integer admits).symm.trans failed)
    case boolean.bool => cases checkKind_boolean.symm.trans failed
    case null.null => cases checkKind_null.symm.trans failed
  · rw [checkKind_refused (by simpa using admits)] at failed
    exact fails_of_fail failed

/-- The alternatives of `anyOf` and `oneOf` do not report their own failures. -/
theorem fails_of_check (failed : check doc guard node value path = .error failure) :
    Fails doc guard path node value failure := by
  cases present : value.isNull && node.isNullable with
  | true => cases (check_null present).symm.trans failed
  | false =>
    rw [check_driven present rfl] at failed
    cases driver : node.driver with
    | reference pointer =>
      rw [driver, driven] at failed
      split at failed
      · rename_i place target lookup
        split at failed
        · cases failed
        · rename_i new
          exact .part (.reference driver lookup) (by simpa [Move.InProgress] using new) failed
      · cases failed
      · exact fails_of_fail failed
    | allOf branches =>
      rw [driver, driven] at failed
      obtain ⟨branch, mem, failed⟩ := exists_of_checkAll_error failed
      exact .part (.allOf driver mem) id failed
    | anyOf branches =>
      rw [driver, driven] at failed
      exact fails_of_ite failed
    | oneOf branches =>
      rw [driver, driven] at failed
      exact fails_of_ite failed
    | constant expected =>
      rw [driver, driven] at failed
      exact fails_of_ite failed
    | enumeration first rest =>
      rw [driver, driven] at failed
      exact fails_of_ite failed
    | typed kind =>
      rw [driver, driven] at failed
      exact fails_of_checkKind failed
    | union kinds =>
      rw [driver, driven] at failed
      split at failed
      · exact fails_of_checkKind failed
      · exact fails_of_fail failed
    | untyped =>
      rw [driver, driven] at failed
      cases failed

/-! ### The whole walk -/

/-- Wherever a call stands on the way down, its failure points into the whole value. -/
theorem pointsInto_of_check {whole : Json} {steps : List Step} (way : renderPath steps = path)
    (reached : follow steps whole = some value) (failed : check doc guard node value path = .error failure) :
    failure.PointsInto whole := by
  induction guard, path, node, value using walk_induction doc generalizing steps with
  | step guard path node value ih =>
    cases fails_of_check failed with
    | here at_path shown => exact ⟨steps, way.trans at_path.symm, .inl (shown ▸ reached)⟩
    | @absent members name object lacks report =>
      subst object report
      refine ⟨steps ++ [.member name], ?_, .inr ⟨rfl, rfl, steps, name, members, rfl, reached, lacks⟩⟩
      rw [renderPath_append, way]
      rfl
    | @part move n v part new failed =>
      have way' : renderPath (steps ++ move.steps) = move.path path := by
        rw [move.renderPath_steps, way]
      have reached' : follow (steps ++ move.steps) whole = some v := by
        rw [follow_append, reached]
        exact part.follow_steps
      exact ih move n v part new way' reached' failed

/-- Every failure of a check points into the value that was checked; an absent body was checked as
null. -/
theorem check_failure_located (doc : Document) :
    (∀ node value failure, checkNode doc node value = .error failure → failure.PointsInto value) ∧
      ∀ body failure, checkBody doc body = .error failure → failure.PointsInto (body.getD .null) := by
  have start : renderPath [] = rootPath := rfl
  have located (node : Node) (value : Json) (failure : Failure)
      (failed : checkNode doc node value = .error failure) : failure.PointsInto value :=
    pointsInto_of_check start rfl failed
  exact ⟨located, fun body failure failed => located doc.root _ failure failed⟩

/-! ### A roster -/

namespace Roster

def address : Node := { type := some (.single .object), required := ["city"] }

def toAddress : Node := { reference := some "#/definitions/address" }

def addresses : Node := { type := some (.single .array), items := some (.single toAddress) }

def roster : Node := { type := some (.single .object), properties := [("addresses", addresses)] }

/-- Addresses with a city each. -/
def document : Document where
  root := roster
  definitions := [("address", address)]

def inOslo : Json := .object [("city", .string "Oslo")]

def nowhere : Json := .object []

theorem lookup_address :
    document.lookup "#/definitions/address" = .internal (.definition "address") address := rfl

theorem check_toAddress {value : Json} (present : value.isNull = false) :
    check document [] toAddress value path = check document [("address", path)] address value path := by
  have driver : toAddress.driver = .reference "#/definitions/address" := rfl
  rw [check_driven (by simp [present]) driver, driven, lookup_address]
  rfl

theorem check_inOslo : check document [] toAddress inOslo path = .ok () := by
  rw [check_toAddress rfl, check_typed rfl rfl, inOslo, checkKind_object]
  rfl

theorem check_nowhere : check document [] toAddress nowhere path =
    .error ⟨childPath path "city", requiredProperty, .null⟩ := by
  rw [check_toAddress rfl, check_typed rfl rfl, nowhere, checkKind_object]
  rfl

theorem check_addresses : check document [] addresses (.array [inOslo, nowhere]) path =
    .error ⟨childPath (indexPath path 1) "city", requiredProperty, .null⟩ := by
  rw [check_typed rfl rfl, checkKind_array]
  show checkAll [(inOslo, 0), (nowhere, 1)] (fun entry _ =>
    check document [] toAddress entry.1 (indexPath path entry.2)) = _
  rw [checkAll, check_inOslo, checkAll, check_nowhere]

theorem checkNode_addresses :
    checkNode document roster (.object [("addresses", .array [inOslo, nowhere])]) =
      .error ⟨"addresses[1].city", requiredProperty, .null⟩ := by
  rw [checkNode, check_typed rfl rfl, checkKind_object]
  simp only [roster, missingMember, List.find?_nil, checkAll, Table.get?, if_true, check_addresses]
  rfl

end Roster

/-- The second address has no city. -/
theorem check_failure_located_roster :
    checkNode Roster.document Roster.roster
        (.object [("addresses", .array [Roster.inOslo, Roster.nowhere])]) =
      .error ⟨"addresses[1].city", requiredProperty, .null⟩ ∧
    (Failure.mk "addresses[1].city" requiredProperty .null).PointsInto
      (.object [("addresses", .array [Roster.inOslo, Roster.nowhere])]) :=
  ⟨Roster.checkNode_addresses,
    (check_failure_located Roster.document).1 _ _ _ Roster.checkNode_addresses⟩

end MockApi.Validation
