import Mathlib.Algebra.Group.Defs
import MockApi.Generation.Compiler
import MockApi.Proofs.Generation.Reaching
import MockApi.Proofs.Validation.Visits

/-!
# Generated values are of the declared kinds

What is made for a node with a kind or a choice of kinds is of one of them, or null where that is allowed. Two
things stand against it. Beyond the depth a choice of kinds is passed over and an empty object made, and a
multiple of the step may be too large for a number and is written as null. Apart from these it always holds
(`nodeValue_respects`).
-/

namespace MockApi.Generation

open Schema Validation

/-- A value is null where that is allowed, or of a kind that the node declares or lets infer. -/
def Respects (node : Node) (value : Json) : Prop :=
  value = .null ∧ node.isNullable = true ∨ ∃ kind ∈ node.checkedKinds, kind.admits value = true

/-- Whatever is drawn and followed, a value that is made with so much room respects the node. -/
def Respected (document : Document) (options : Options) (room : Nat) (node : Node) : Prop :=
  ∀ (σ : Type) [Source σ] (setting : Setting σ) (walk : Walk σ) (value : Json),
    (nodeValue ⟨document, options, setting⟩ room node walk).1 = .ok value → Respects node value

/-- The multiples that may be drawn are finite, or null is allowed. -/
def NumbersFit (node : Node) : Prop := node.isNullable = false → MultiplesFinite node.toKeywords

variable {node : Node} {kind : Kind} {kinds : List Kind}

/-! ### Kinds of a node -/

theorem checkedKinds_of_typed (driver : node.driver = .typed kind) : node.checkedKinds = [kind] := by
  rw [Node.checkedKinds, driver]

theorem checkedKinds_of_union (driver : node.driver = .union kinds) : node.checkedKinds = kinds := by
  rw [Node.checkedKinds, driver]

/-- A choice of kinds is stated, and there is more than one. -/
theorem type_of_union (driver : node.driver = .union kinds) :
    node.type = some (.union kinds) ∧ kinds ≠ [] := by
  unfold Node.driver Node.typeDriver at driver
  repeat' split at driver
  all_goals simp_all
  subst driver
  exact List.cons_ne_nil _ _

theorem isNullable_of_null_mem (driver : node.driver = .union kinds) (mem : .null ∈ kinds) :
    node.isNullable = true := by
  rw [Node.isNullable, (type_of_union driver).1]
  simp [mem]

theorem not_respects_null (present : node.isNullable = false) (number : .number ∈ node.checkedKinds) :
    ¬Respects node .null := by
  rintro (⟨-, nullable⟩ | ⟨kind, mem, admits⟩)
  · rw [present] at nullable
    cases nullable
  · cases kind with
    | null =>
      cases driver : node.driver with
      | typed kind =>
        rw [checkedKinds_of_typed driver, List.mem_singleton] at mem number
        cases mem.trans number.symm
      | union kinds =>
        rw [checkedKinds_of_union driver] at mem
        rw [isNullable_of_null_mem driver mem] at present
        cases present
      | _ => simp [Node.checkedKinds, driver] at mem
    | _ => cases admits

/-- An empty object respects a choice of kinds only if it may be an object. -/
theorem respects_empty_iff (driver : node.driver = .union kinds) :
    Respects node (.object []) ↔ .object ∈ kinds := by
  rw [Respects, checkedKinds_of_union driver]
  constructor
  · rintro (⟨same, -⟩ | ⟨kind, mem, admits⟩)
    · cases same
    · cases kind with
      | object => exact mem
      | _ => cases admits
  · exact fun mem => .inr ⟨.object, mem, rfl⟩

/-! ### One step -/

section

variable {σ : Type} [Source σ] {plan : Plan σ} {next : Node → Walking σ Json}

theorem leafDraw_respects (setting : Setting σ) (checked : kind ∈ node.checkedKinds)
    (fit : kind = .number → NumbersFit node) :
    Makes (leafDraw setting kind node.toKeywords) (Respects node) := by
  have admitted {value : Json} (admits : kind.admits value = true) : Respects node value :=
    .inr ⟨kind, checked, admits⟩
  cases kind with
  | string => exact makes_map _ fun _ => admitted rfl
  | number =>
    refine makes_drawn ?_
    cases nullable : node.isNullable with
    | false =>
      refine (numberDraw_isNumber (fit rfl nullable)).mono ?_
      rintro value ⟨x, rfl⟩
      exact admitted rfl
    | true =>
      refine (numberDraw_gives (fun _ _ _ => Draw.gives_any _) (Draw.gives_any _)).mono ?_
      rintro value ⟨x, -, rfl⟩
      cases x with
      | finite x => exact admitted rfl
      | _ => exact .inl ⟨rfl, nullable⟩
  | integer =>
    refine makes_drawn ((integerDraw_gives _).mono ?_)
    rintro value ⟨n, rfl⟩
    exact admitted rfl
  | boolean => exact makes_map _ fun _ => admitted rfl
  | object => exact keeps_pure (admitted rfl)
  | array => exact keeps_pure (admitted rfl)
  | null => exact keeps_pure (admitted rfl)

theorem kindValue_respects (checked : kind ∈ node.checkedKinds) (fit : kind = .number → NumbersFit node) :
    Makes (kindValue plan next node kind) (Respects node) := by
  unfold kindValue
  split
  · exact makes_map _ fun members => .inr ⟨.object, checked, rfl⟩
  · exact makes_map _ fun elements => .inr ⟨.array, checked, rfl⟩
  · exact Walking.makes_lift (leafDraw_respects plan.setting checked fit)

omit [Source σ] in
theorem exampleOf_eq_none (noExamples : plan.options.useExamples = false) (node : Node) :
    exampleOf plan node = none := by
  rw [exampleOf, noExamples]
  rfl

theorem drawsNull_makes (node : Node) :
    Makes (drawsNull node : Walking σ Bool) (· = true → node.isNullable = true) := by
  unfold drawsNull
  split
  · rename_i nullable
    exact (makes_any _).mono fun _ _ _ => nullable
  · exact keeps_pure nofun

theorem drivenValue_respects (declared : node.checkedKinds ≠ [])
    (fit : .number ∈ node.checkedKinds → NumbersFit node) :
    Makes (drivenValue plan next node) (Respects node) := by
  have of_checked (kind : Kind) (checked : kind ∈ node.checkedKinds) :
      Makes (kindValue plan next node kind) (Respects node) :=
    kindValue_respects checked fun number => fit (number ▸ checked)
  unfold drivenValue
  cases driver : node.driver with
  | typed kind => exact of_checked kind (by simp [checkedKinds_of_typed driver])
  | union kinds =>
    have kinds_eq := checkedKinds_of_union driver
    dsimp only
    split
    · rename_i nulls
      -- all kinds are null
      obtain ⟨kind, mem⟩ := List.exists_mem_of_ne_nil kinds (type_of_union driver).2
      have null : kind = .null := by simpa using List.filter_eq_nil_iff.mp nulls kind mem
      exact keeps_pure (.inr ⟨.null, by rwa [kinds_eq, ← null], rfl⟩)
    · rename_i first rest others
      refine (Walking.makes_draw (Draw.oneOf_gives first rest)).bind fun kind drawn => ?_
      have mem : kind ∈ kinds := List.mem_of_mem_filter (others ▸ drawn)
      exact of_checked kind (kinds_eq ▸ mem)
  | _ => exact absurd (by rw [Node.checkedKinds, driver]) declared

end

/-! ### Every step -/

section

/-- What keeps the values of a node to its kinds: its numbers fit, and with no room left a choice of kinds takes
in objects. -/
def KeepsKinds (node : Node) : Nat → Prop
  | 0 => (node.driver = .typed .number → NumbersFit node) ∧
      ∀ kinds, node.driver = .union kinds → .object ∈ kinds
  | _ + 1 => .number ∈ node.checkedKinds → NumbersFit node

variable {document : Document} {options : Options} {room : Nat}

theorem respected_of_makes
    (makes : ∀ (σ : Type) [Source σ] (setting : Setting σ),
      Makes (nodeValue ⟨document, options, setting⟩ room node) (Respects node)) :
    Respected document options room node := by
  intro σ _ setting walk value made
  have run := (makes σ setting walk trivial).1
  rw [made] at run
  exact run

theorem respected_of_keepsKinds (noExamples : options.useExamples = false)
    (declared : (∃ kind, node.driver = .typed kind) ∨ ∃ kinds, node.driver = .union kinds)
    (keeps : KeepsKinds node room) : Respected document options room node := by
  refine respected_of_makes fun σ _ setting => ?_
  cases room with
  | zero =>
    unfold nodeValue partialValue
    rcases declared with ⟨kind, driver⟩ | ⟨kinds, driver⟩ <;> rw [driver] <;> dsimp only
    · refine Walking.makes_lift (leafDraw_respects setting ?_ fun number => keeps.1 (number ▸ driver))
      exact checkedKinds_of_typed driver ▸ List.mem_singleton_self kind
    · exact keeps_pure ((respects_empty_iff driver).mpr (keeps.2 kinds driver))
  | succ room =>
    have some_kind : node.checkedKinds ≠ [] := by
      rcases declared with ⟨kind, driver⟩ | ⟨kinds, driver⟩
      · rw [checkedKinds_of_typed driver]
        exact List.cons_ne_nil kind []
      · rw [checkedKinds_of_union driver]
        exact (type_of_union driver).2
    unfold nodeValue
    rw [exampleOf_eq_none noExamples]
    refine (drawsNull_makes node).bind fun isNull nullable => ?_
    split
    · rename_i null
      exact keeps_pure (.inl ⟨rfl, nullable null⟩)
    · exact drivenValue_respects some_kind keeps

/-! ### Where a step is too large -/

theorem not_respected_of_reaches (setting : Setting Script) (present : node.isNullable = false)
    (number : .number ∈ node.checkedKinds)
    (reaches : Walking.Reaches (nodeValue ⟨document, options, setting⟩ room node) .null) :
    ¬Respected document options room node := by
  intro respected
  obtain ⟨words, run⟩ := reaches
  refine not_respects_null present number (respected Script setting ⟨⟨words ++ [], 0, 0⟩, []⟩ .null ?_)
  rw [run]

theorem drivenValue_reaches_null {plan : Plan Script} {next : Node → Walking Script Json}
    (infinite : ¬MultiplesFinite node.toKeywords) (number : .number ∈ node.checkedKinds)
    (few : node.checkedKinds.length ≤ 2 ^ 64) : Walking.Reaches (drivenValue plan next node) .null := by
  have reached : Walking.Reaches (kindValue plan next node .number) .null :=
    Walking.reaches_draw (numberDraw_reaches_null infinite)
  unfold drivenValue
  cases driver : node.driver with
  | typed kind =>
    rw [checkedKinds_of_typed driver, List.mem_singleton] at number
    rwa [← number]
  | union kinds =>
    rw [checkedKinds_of_union driver] at number few
    have other : .number ∈ kinds.filter (· ≠ .null) := List.mem_filter.mpr ⟨number, rfl⟩
    have fewer := List.length_filter_le (· ≠ .null) kinds
    dsimp only
    cases others : kinds.filter (· ≠ .null) with
    | nil =>
      rw [others] at other
      cases other
    | cons first rest =>
      rw [others] at other fewer
      rw [List.length_cons] at fewer
      exact (Walking.reaches_draw (Draw.oneOf_reaches other (by omega))).bind reached
  | _ => simp [Node.checkedKinds, driver] at number

theorem keepsKinds_of_respected (noExamples : options.useExamples = false)
    (few : node.checkedKinds.length ≤ 2 ^ 64) (respected : Respected document options room node) :
    KeepsKinds node room := by
  let setting : Setting Script := ⟨Samples.ofVocabulary, ⟨0⟩⟩
  cases room with
  | zero =>
    refine ⟨fun driver present => ?_, fun kinds driver => ?_⟩
    · have number : .number ∈ node.checkedKinds :=
        checkedKinds_of_typed driver ▸ List.mem_singleton_self _
      by_contra infinite
      refine not_respected_of_reaches setting present number ?_ respected
      unfold nodeValue partialValue
      rw [driver]
      exact Walking.reaches_draw (numberDraw_reaches_null infinite)
    · refine (respects_empty_iff driver).mp (respected Script setting ⟨⟨[], 0, 0⟩, []⟩ _ ?_)
      unfold nodeValue partialValue
      rw [driver]
      rfl
  | succ room =>
    intro number present
    by_contra infinite
    refine not_respected_of_reaches setting present number ?_ respected
    have not_null : drawsNull node = (pure false : Walking Script Bool) := by
      rw [drawsNull, present]
      rfl
    unfold nodeValue
    rw [exampleOf_eq_none noExamples, not_null]
    exact (Walking.reaches_pure false).bind (drivenValue_reaches_null infinite number few)

/-- Whatever is drawn and followed, what is made for a node with a kind or a choice of kinds is of one of them or
a null that is allowed, with room and without, if its numbers fit and a choice of kinds without room takes in
objects. Only then, if the kinds can be numbered by words. -/
theorem nodeValue_respects (document : Document) (options : Options) (node : Node) (room : Nat)
    (noExamples : options.useExamples = false)
    (declared : (∃ kind, node.driver = .typed kind) ∨ ∃ kinds, node.driver = .union kinds) :
    (KeepsKinds node room → Respected document options room node) ∧
      (node.checkedKinds.length ≤ 2 ^ 64 → Respected document options room node → KeepsKinds node room) :=
  ⟨respected_of_keepsKinds noExamples declared, keepsKinds_of_respected noExamples⟩

end

/-! ### A choice too deep, and a step too large -/

namespace Choice

/-- A text or null. -/
def note : Node := { type := some (.union [.string, .null]) }

/-- A whole number or a text. -/
def amount : Node where
  type := some (.union [.number, .string])
  multipleOf := some ⟨false, 1 * Binary64.unitsPerOne, Binary64.onGrid_whole Nat.one_le_two_pow⟩

def holder (name : String) (held : Node) : Node :=
  { type := some (.single .object), required := [name], properties := [(name, held)] }

def document : Document := { root := holder "a" (holder "b" note) }

def greatest : Binary64.Finite := ⟨false, (2 ^ 53 - 1) * 2 ^ 2045, by decide +kernel⟩

/-- Only the greatest number is in range, and the step is `3e289`. -/
def steep : Node where
  type := some (.single .number)
  minimum := some greatest
  maximum := some greatest
  multipleOf := some ⟨false, 6931946403320946 * 2 ^ 1983, by decide +kernel⟩

theorem amount_multiplesFinite : MultiplesFinite amount.toKeywords := by
  refine multiplesFinite_of_small (n := 0) (by decide) fun step stated => ?_
  cases stated
  exact Nat.mul_le_mul_right Binary64.unitsPerOne Nat.one_le_two_pow

theorem nodeValue_holder {σ : Type} [Source σ] {plan : Plan σ} (noExamples : plan.options.useExamples = false)
    {name : String} {held : Node} {room : Nat} {value : Json} {walk after : Walk σ}
    (inside : nodeValue plan room held walk = (.ok value, after)) :
    nodeValue plan (room + 1) (holder name held) walk = (.ok (.object [(name, value)]), after) := by
  have required : (holder name held).isRequired name = true := by simp [holder, Node.isRequired]
  have included : includesMember plan (holder name held) name = pure true := by
    rw [includesMember, if_pos required]
  rw [nodeValue, exampleOf_eq_none noExamples]
  have members : memberValues plan (nodeValue plan room) (holder name held) [(name, held)] walk =
      (.ok [(name, value)], after) := by
    unfold memberValues
    rw [included]
    exact Walking.bind_run rfl (Walking.bind_run inside (Walking.bind_run rfl rfl))
  have present : drawsNull (holder name held) walk = (.ok false, walk) := rfl
  exact Walking.bind_run present (Walking.bind_run members rfl)

end Choice

/-- With room left a number or a text is made for a node that takes both, since a step of one is small. -/
theorem nodeValue_respects_amount :
    let c := Compiler.ofConfig { maxDepth := 1 } {} 0
    c.options.useExamples = false ∧ Choice.amount.driver = .union [.number, .string] ∧
      KeepsKinds Choice.amount 1 ∧ Respected Choice.document c.options 1 Choice.amount := by
  intro c
  have keeps : KeepsKinds Choice.amount 1 := fun _ _ => Choice.amount_multiplesFinite
  exact ⟨rfl, rfl, keeps,
    (nodeValue_respects Choice.document c.options Choice.amount 1 rfl (.inr ⟨_, rfl⟩)).1 keeps⟩

/-- Beyond the depth an empty object is made where a text or null is asked for. Where only the greatest number is
in range, the multiple of the step that is next to it is too large, and null is made. -/
theorem compile_departs_from_kinds :
    let c := Compiler.ofConfig { maxDepth := 1 } {} 0
    c.options.useExamples = false ∧
      (Choice.note.driver = .union [.string, .null] ∧
        (c.compile ⟨0⟩ Choice.document).2 = .ok (.object [("a", .object [("b", .object [])])]) ∧
        ¬Respects Choice.note (.object []) ∧ ¬Respected Choice.document c.options 0 Choice.note) ∧
      Choice.steep.driver = .typed .number ∧
        (c.compile ⟨0⟩ { root := Choice.steep }).2 = .ok .null ∧ ¬Respects Choice.steep .null := by
  intro c
  have choice : Choice.note.driver = .union [.string, .null] := rfl
  have other : ¬Respects Choice.note (.object []) :=
    fun respects => absurd ((respects_empty_iff choice).mp respects) (by decide)
  refine ⟨rfl, ⟨choice, ?_, other, fun respected => ?_⟩, rfl, ?_, ?_⟩
  · have run : nodeValue (c.plan ⟨0⟩ Choice.document) 2 Choice.document.root ⟨c.child.2, []⟩ =
        (.ok (.object [("a", .object [("b", .object [])])]), ⟨c.child.2, []⟩) :=
      Choice.nodeValue_holder rfl (Choice.nodeValue_holder rfl rfl)
    exact congrArg Prod.fst run
  · exact other (respected Script ⟨Samples.ofVocabulary, ⟨0⟩⟩ ⟨⟨[], 0, 0⟩, []⟩ (.object []) rfl)
  · have null : (c.compile ⟨0⟩ { root := Choice.steep }).2.toOption.map Json.isNull = some true := by
      decide +kernel
    cases made : (c.compile ⟨0⟩ { root := Choice.steep }).2 with
    | error fault =>
      rw [made] at null
      cases null
    | ok value =>
      rw [made] at null
      cases value with
      | null => rfl
      | _ => cases null
  · exact not_respects_null rfl List.mem_cons_self

end MockApi.Generation
