import MockApi.Proofs.Validation.Guard

/-!
# The two names

A member `$` of the whole value has the path of the value, and a definition `#` has the key of the root.
Each of them lets a check take for granted what it has not looked at, and no other name does
(`checkNode_sound_iff`).
-/

namespace MockApi.Validation

open Schema

variable {doc : Document} {node n : Node}

/-! ### Two documents -/

/-- An object whose member `$` is such an object again. -/
def memberLoop : Document where
  root :=
    { type := some (.single .object), properties := [(rootPath, { reference := some rootKey })] }

/-- An array of such arrays, by way of a definition `#`. -/
def keyLoop : Document where
  root :=
    { type := some (.single .array), items := some (.single { reference := some "#/definitions/#" }) }
  definitions := [(rootKey, { reference := some rootKey })]

theorem memberLoop_lookup : memberLoop.lookup rootKey = .internal .root memberLoop.root := rfl

theorem keyLoop_lookup_root : keyLoop.lookup rootKey = .internal .root keyLoop.root := rfl

theorem keyLoop_lookup : keyLoop.lookup "#/definitions/#" =
    .internal (.definition rootKey) { reference := some rootKey } := rfl

theorem kindMeets_memberLoop {R : Move → Node → Json → Prop} {v : Json} :
    KindMeets R memberLoop.root .object (.object [(rootPath, v)]) ↔
      R (.part rootMember) { reference := some rootKey } v := by
  constructor
  · intro meets
    cases meets with
    | object required properties => exact properties rootPath _ List.mem_cons_self v rfl
  · intro holds
    refine .object nofun ?_
    intro name property mem member found
    cases List.mem_singleton.mp mem
    cases found
    exact holds

theorem kindMeets_keyLoop {R : Move → Node → Json → Prop} {v : Json} :
    KindMeets R keyLoop.root .array (.array [v]) ↔
      R (.part (.element 0)) { reference := some "#/definitions/#" } v := by
  constructor
  · intro meets
    cases meets with
    | array length items => exact items 0 v rfl
  · intro holds
    refine .array ⟨nofun, nofun⟩ ?_
    intro i element found
    obtain ⟨rfl, rfl⟩ : i = 0 ∧ v = element := by
      cases i with
      | zero => exact ⟨rfl, Option.some.inj found⟩
      | succ i => cases found
    exact holds

/-! ### What a check of them sees -/

theorem checkNode_memberLoop (v : Json) :
    checkNode memberLoop memberLoop.root (.object [(rootPath, .object [(rootPath, v)])]) = .ok () := by
  have again : check memberLoop [(rootKey, rootPath)] memberLoop.root (.object [(rootPath, v)])
      rootPath = .ok () := by
    rw [check_typed rfl rfl, checkKind_eq_ok, kindMeets_memberLoop, accepts_part,
      check_internal_eq_ok (by simp [Node.isNullable]) rfl memberLoop_lookup]
    exact .inl List.mem_cons_self
  rw [checkNode, check_typed rfl rfl, checkKind_eq_ok, kindMeets_memberLoop, accepts_part,
    check_internal_eq_ok rfl rfl memberLoop_lookup]
  exact .inr again

theorem checkNode_keyLoop (v : Json) : checkNode keyLoop keyLoop.root (.array [v]) = .ok () := by
  have again : check keyLoop [(rootKey, indexPath rootPath 0)] { reference := some rootKey } v
      (indexPath rootPath 0) = .ok () := by
    rw [check_internal_eq_ok (by simp [Node.isNullable]) rfl keyLoop_lookup_root]
    exact .inl List.mem_cons_self
  rw [checkNode, check_typed rfl rfl, checkKind_eq_ok, kindMeets_keyLoop, accepts_part,
    check_internal_eq_ok (by simp [Node.isNullable]) rfl keyLoop_lookup]
  exact .inr again

theorem Satisfies.of_memberLoop {v : Json}
    (holds : Satisfies memberLoop memberLoop.root (.object [(rootPath, v)])) :
    Satisfies memberLoop memberLoop.root v := by
  rw [satisfies_iff, meets_typed rfl rfl, kindMeets_memberLoop, satisfies_iff,
    meets_internal (by simp [Node.isNullable]) rfl memberLoop_lookup] at holds
  exact holds

theorem Satisfies.of_keyLoop {v : Json} (holds : Satisfies keyLoop keyLoop.root (.array [v])) :
    Satisfies keyLoop keyLoop.root v := by
  rw [satisfies_iff, meets_typed rfl rfl, kindMeets_keyLoop, satisfies_iff,
    meets_internal (by simp [Node.isNullable]) rfl keyLoop_lookup, satisfies_iff,
    meets_internal (by simp [Node.isNullable]) rfl keyLoop_lookup_root] at holds
  exact holds

/-! ### What they hide -/

theorem not_satisfies_bool {kind : Kind} {b : Bool} (driver : node.driver = .typed kind)
    (other : kind ≠ .boolean) : ¬Satisfies doc node (.bool b) := by
  rw [satisfies_iff, meets_typed rfl driver]
  intro meets
  cases meets
  exact other rfl

/-- The member `$` of the member `$` has to be an object, and is not looked at. -/
theorem not_satisfies_memberLoop : ¬Satisfies memberLoop memberLoop.root
    (.object [(rootPath, .object [(rootPath, .bool true)])]) :=
  have driver : memberLoop.root.driver = .typed .object := rfl
  fun holds => not_satisfies_bool driver nofun holds.of_memberLoop.of_memberLoop

/-- The element has to be an array, and is not looked at. -/
theorem not_satisfies_keyLoop : ¬Satisfies keyLoop keyLoop.root (.array [.bool true]) :=
  have driver : keyLoop.root.driver = .typed .array := rfl
  fun holds => not_satisfies_bool driver nofun holds.of_keyLoop

/-! ### Exactly these -/

theorem occurs_memberLoop (occurs : Occurs memberLoop memberLoop.root n) :
    n = memberLoop.root ∨ n = { reference := some rootKey } := by
  induction occurs with
  | self => exact .inl rfl
  | root => exact .inl rfl
  | definition mem => cases mem
  | branch _ mem ih => rcases ih with rfl | rfl <;> simp [memberLoop] at mem
  | property _ mem ih =>
    rcases ih with rfl | rfl
    · cases List.mem_singleton.mp mem
      exact .inr rfl
    · cases mem
  | single _ items ih => rcases ih with rfl | rfl <;> cases items
  | tuple _ items mem ih => rcases ih with rfl | rfl <;> cases items

theorem occurs_keyLoop (occurs : Occurs keyLoop keyLoop.root n) :
    n = keyLoop.root ∨ ∃ pointer, n = { reference := some pointer } := by
  induction occurs with
  | self => exact .inl rfl
  | root => exact .inl rfl
  | definition mem =>
    cases List.mem_singleton.mp mem
    exact .inr ⟨_, rfl⟩
  | branch _ mem ih => rcases ih with rfl | ⟨pointer, rfl⟩ <;> simp [keyLoop] at mem
  | property _ mem ih => rcases ih with rfl | ⟨pointer, rfl⟩ <;> cases mem
  | single _ items ih =>
    rcases ih with rfl | ⟨pointer, rfl⟩
    · cases items
      exact .inr ⟨_, rfl⟩
    · cases items
  | tuple _ items mem ih => rcases ih with rfl | ⟨pointer, rfl⟩ <;> cases items

theorem oneOfFree_memberLoop : OneOfFree memberLoop memberLoop.root := by
  intro n occurs
  rcases occurs_memberLoop occurs with rfl | rfl <;> rfl

theorem oneOfFree_keyLoop : OneOfFree keyLoop keyLoop.root := by
  intro n occurs
  rcases occurs_keyLoop occurs with rfl | ⟨pointer, rfl⟩ <;> rfl

theorem covers_memberLoop {names : Vocabulary} {v : Json} (property : names.property rootPath)
    (member : names.member rootPath) :
    names.Covers memberLoop memberLoop.root (.object [(rootPath, v)]) where
  property n occurs entry mem := by
    rcases occurs_memberLoop occurs with rfl | rfl
    · cases List.mem_singleton.mp mem
      exact property
    · cases mem
  definition entry mem := by cases mem
  member name v found := by
    rw [List.mem_singleton.mp (get?_mem found) |> Prod.mk.inj |>.1]
    exact member

theorem covers_keyLoop {names : Vocabulary} {v : Json} (definition : names.definition rootKey) :
    names.Covers keyLoop keyLoop.root (.array [v]) where
  property n occurs entry mem := by
    rcases occurs_keyLoop occurs with rfl | ⟨pointer, rfl⟩ <;> cases mem
  definition entry mem := by
    cases List.mem_singleton.mp mem
    exact definition
  member name v found := by cases found

/-- Which names a check may meet so that it hides nothing: any, except `$` as a property and a member of
the whole value, and `#` as a definition. -/
theorem checkNode_sound_iff (names : Vocabulary) :
    (∀ doc node value, OneOfFree doc node → names.Covers doc node value →
        checkNode doc node value = .ok () → Satisfies doc node value) ↔
      ¬(names.property rootPath ∧ names.member rootPath) ∧ ¬names.definition rootKey := by
  constructor
  · intro sound
    constructor
    · rintro ⟨property, member⟩
      exact not_satisfies_memberLoop (sound _ _ _ oneOfFree_memberLoop
        (covers_memberLoop property member) (checkNode_memberLoop _))
    · intro definition
      exact not_satisfies_keyLoop
        (sound _ _ _ oneOfFree_keyLoop (covers_keyLoop definition) (checkNode_keyLoop _))
  · rintro ⟨members, keys⟩ doc node value plain covers accepted
    exact satisfies_of_checkNode plain covers members keys accepted

/-- Behind the member `$` of the whole value a check accepts what does not satisfy the schema. -/
theorem checkNode_hides_member :
    OneOfFree memberLoop memberLoop.root ∧
      checkNode memberLoop memberLoop.root
        (.object [(rootPath, .object [(rootPath, .bool true)])]) = .ok () ∧
      ¬Satisfies memberLoop memberLoop.root
        (.object [(rootPath, .object [(rootPath, .bool true)])]) :=
  ⟨oneOfFree_memberLoop, checkNode_memberLoop _, not_satisfies_memberLoop⟩

end MockApi.Validation
