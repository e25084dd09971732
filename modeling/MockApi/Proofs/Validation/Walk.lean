import MockApi.Validation

/-!
# What one call of the walk does

One equation for each driver of a node and for each kind of value. Proofs about `check` use these and
do not open its recursion.
-/

namespace MockApi.Validation

open Schema

variable {doc : Document} {guard : Guard} {node : Node} {value : Json} {path : String}

theorem checkAll_eq_ok {α : Type} {entries : List α}
    {test : (x : α) → x ∈ entries → Except Failure Unit} :
    checkAll entries test = .ok () ↔ ∀ x (h : x ∈ entries), test x h = .ok () := by
  induction entries with
  | nil => simp [checkAll]
  | cons x rest ih =>
    rw [checkAll]
    cases hx : test x List.mem_cons_self with
    | error failure =>
      simp only [reduceCtorEq, false_iff]
      intro h
      simp [h x List.mem_cons_self] at hx
    | ok u =>
      rw [ih]
      constructor
      · intro h y hy
        rcases List.mem_cons.mp hy with rfl | hy'
        · exact hx
        · exact h y hy'
      · exact fun h y hy => h y (List.mem_cons_of_mem x hy)

@[simp] theorem fail_ne_ok (path expected : String) (actual : Json) :
    fail path expected actual ≠ .ok () := by
  simp [fail]

theorem failIf_eq_ok {fault : Option String} {actual : Json} :
    failIf fault path actual = .ok () ↔ fault = none := by
  cases fault <;> simp [failIf, fail]

theorem isOk_iff {result : Except Failure Unit} : result.isOk = true ↔ result = .ok () := by
  cases result <;> simp [Except.isOk, Except.toBool]

/-! ### Drivers -/

/-- What a call does at a node with a driver, without the proofs that the walk comes to an end. -/
def driven (doc : Document) (guard : Guard) (node : Node) (value : Json) (path : String) :
    Driver → Except Failure Unit
  | .reference pointer =>
    match doc.lookup pointer with
    | .internal place target =>
      if guard.contains (place.key, path) then .ok ()
      else check doc ((place.key, path) :: guard) target value path
    | .external => .ok ()
    | .missing => fail path ("resolvable reference " ++ pointer) value
  | .allOf branches => checkAll branches fun branch _ => check doc guard branch value path
  | .anyOf branches =>
    if branches.any fun branch => (check doc guard branch value path).isOk then .ok ()
    else fail path "a value matching at least one anyOf branch" value
  | .oneOf branches =>
    if (branches.countP fun branch => (check doc guard branch value path).isOk) = 1 then .ok ()
    else fail path "a value matching exactly one oneOf branch" value
  | .constant expected =>
    if value.same expected then .ok () else fail path ("const " ++ expected.compact) value
  | .enumeration first rest =>
    if (first :: rest).any value.same then .ok ()
    else fail path ("one of " ++ (Json.array (first :: rest)).compact) value
  | .typed kind => checkKind doc guard node kind value path
  | .union kinds =>
    match kinds.find? (·.admits value) with
    | some kind => checkKind doc guard node kind value path
    | none => fail path (Text.joinWith " | " (kinds.map Kind.name)) value
  | .untyped => .ok ()

theorem check_null (hn : (value.isNull && node.isNullable) = true) :
    check doc guard node value path = .ok () := by
  rw [check, if_pos hn]

section

variable (hn : (value.isNull && node.isNullable) = false)
include hn

theorem check_driven {driver : Driver} (hd : node.driver = driver) :
    check doc guard node value path = driven doc guard node value path driver := by
  rw [check, if_neg (by simp [hn])]
  split <;> rename_i h <;> cases hd.symm.trans h
  case h_1 pointer =>
    unfold driven
    split <;> rename_i lookup <;> simp [lookup]
  case h_3 branches => simp [driven]
  case h_4 branches =>
    have attached := List.countP_attach (l := branches)
      (p := fun branch => (check doc guard branch value path).isOk)
    exact congrArg (fun count => if count = 1 then _ else _) attached
  all_goals rfl

theorem check_typed {kind : Kind} (hd : node.driver = .typed kind) :
    check doc guard node value path = checkKind doc guard node kind value path := by
  rw [check_driven hn hd, driven]

end

/-! ### Kinds -/

/-- What a call does for a kind, without the proofs that the walk comes to an end. -/
theorem checkKind_unfold {kind : Kind} :
    checkKind doc guard node kind value path =
      if !kind.admits value then fail path kind.name value
      else match kind, value with
        | .object, .object members =>
          match missingMember node.required members with
          | some name => fail (childPath path name) "required property" .null
          | none =>
            checkAll node.properties fun entry _ =>
              match Table.get? members entry.1 with
              | none => .ok ()
              | some member => check doc guard entry.2 member (childPath path entry.1)
        | .array, .array elements =>
          match lengthFault node.toKeywords elements.length with
          | some expected => fail path expected value
          | none =>
            match node.items with
            | some (.single item) =>
              checkAll elements.zipIdx fun entry _ =>
                check doc guard item entry.1 (indexPath path entry.2)
            | some (.tuple positions) =>
              checkAll (zipIndexed 0 positions elements) fun entry _ =>
                check doc guard entry.2.1 entry.2.2 (indexPath path entry.1)
            | none => .ok ()
        | .string, .string s => failIf (stringFault node.toKeywords s) path value
        | .number, .number n | .integer, .number n =>
          failIf (numberFault node.toKeywords n.toBinary64) path value
        | _, _ => .ok () := by
  rw [checkKind.eq_def]
  split
  · rfl
  cases kind <;> cases value
  case isFalse.object.object members admitted =>
    dsimp only
    cases missingMember node.required members with
    | some name => rfl
    | none =>
      show checkAll _ _ = checkAll _ _
      congr 1
      funext entry _
      obtain ⟨name, property⟩ := entry
      dsimp only
      split <;> rename_i h <;> simp [h]
  all_goals rfl

theorem checkKind_refused {kind : Kind} (h : kind.admits value = false) :
    checkKind doc guard node kind value path = fail path kind.name value := by
  rw [checkKind_unfold, if_pos (by simp [h])]

theorem checkKind_object {members : List (String × Json)} :
    checkKind doc guard node .object (.object members) path =
      match missingMember node.required members with
      | some name => fail (childPath path name) "required property" .null
      | none =>
        checkAll node.properties fun entry _ =>
          match Table.get? members entry.1 with
          | none => .ok ()
          | some member => check doc guard entry.2 member (childPath path entry.1) := by
  rw [checkKind_unfold]
  exact if_neg Bool.false_ne_true

theorem checkKind_array {elements : List Json} :
    checkKind doc guard node .array (.array elements) path =
      match lengthFault node.toKeywords elements.length with
      | some expected => fail path expected (.array elements)
      | none =>
        match node.items with
        | some (.single item) =>
          checkAll elements.zipIdx fun entry _ =>
            check doc guard item entry.1 (indexPath path entry.2)
        | some (.tuple positions) =>
          checkAll (zipIndexed 0 positions elements) fun entry _ =>
            check doc guard entry.2.1 entry.2.2 (indexPath path entry.1)
        | none => .ok () := by
  rw [checkKind_unfold]
  exact if_neg Bool.false_ne_true

theorem checkKind_string {s : String} :
    checkKind doc guard node .string (.string s) path =
      failIf (stringFault node.toKeywords s) path (.string s) := by
  rw [checkKind_unfold]
  exact if_neg Bool.false_ne_true

theorem checkKind_number {n : Json.Number} :
    checkKind doc guard node .number (.number n) path =
      failIf (numberFault node.toKeywords n.toBinary64) path (.number n) := by
  rw [checkKind_unfold]
  exact if_neg Bool.false_ne_true

theorem checkKind_integer {n : Json.Number} (h : Kind.integer.admits (.number n) = true) :
    checkKind doc guard node .integer (.number n) path =
      failIf (numberFault node.toKeywords n.toBinary64) path (.number n) := by
  rw [checkKind_unfold]
  exact if_neg (by simp [h])

theorem checkKind_boolean {b : Bool} :
    checkKind doc guard node .boolean (.bool b) path = .ok () := by
  rw [checkKind_unfold]
  exact if_neg Bool.false_ne_true

theorem checkKind_null : checkKind doc guard node .null .null path = .ok () := by
  rw [checkKind_unfold]
  exact if_neg Bool.false_ne_true

end MockApi.Validation
