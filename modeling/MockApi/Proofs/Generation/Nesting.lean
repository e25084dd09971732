import MockApi.Proofs.Generation.Draws
import MockApi.Proofs.Generation.Keeping
import MockApi.Proofs.Generation.Soundness
import MockApi.Proofs.Json.Shape
import MockApi.Proofs.Schema.Components

/-!
# How deep generated values are

A walk goes a limited number of steps from node to node, and each step makes a value at most one level deeper.
Where it stops it makes a leaf, an empty container, or a value that is written in a node. So a generated value is
at most as deep as the steps and the deepest such value together, whatever is drawn and however the
definitions refer to one another (`generate_nesting_le`).
-/

namespace MockApi.Generation

open Schema

variable {σ : Type} {plan : Plan σ} {node : Node} {limit depth : Nat}

/-- What a walk comes to has literals that are no deeper. -/
def Shallow (plan : Plan σ) (limit : Nat) (node : Node) : Prop :=
  plan.document.literalNesting plan.options.useExamples node ≤ limit

theorem Shallow.component {part : Node} (shallow : Shallow plan limit node)
    (mem : part ∈ node.components) : Shallow plan limit part :=
  (Document.greatest_mono ((Node.literalNesting_le_iff.mp (Nat.le_refl _)).1 part mem)).trans shallow

theorem Shallow.target {pointer : String} {place : Place} {target : Node} (shallow : Shallow plan limit node)
    (lookup : plan.document.lookup pointer = .internal place target) : Shallow plan limit target :=
  (Document.greatest_of_lookup lookup).trans shallow

theorem Shallow.literal {literal : Json} (shallow : Shallow plan limit node)
    (mem : literal ∈ node.toKeywords.literals plan.options.useExamples) : literal.nesting ≤ limit := by
  have here := (Document.le_greatest plan.document (Node.literalNesting _) node).trans shallow
  exact (Node.literalNesting_le_iff.mp here).2 literal mem

theorem exampleOf_nesting {value : Json} (shallow : Shallow plan limit node)
    (given : exampleOf plan node = some value) : value.nesting ≤ limit := by
  unfold exampleOf at given
  split at given
  · rename_i used
    obtain ⟨examples, stated, first⟩ := Option.bind_eq_some_iff.mp given
    refine shallow.literal ?_
    rw [used]
    exact Node.example_mem_literals stated (List.mem_of_head? first)
  · cases given

/-! ### References and branches -/

theorem mergeValues_nesting {values : List Json} (positive : 1 ≤ limit)
    (each : ∀ value ∈ values, value.nesting ≤ limit) : (mergeValues values).nesting ≤ limit := by
  unfold mergeValues
  dsimp only
  split
  · cases last : values.getLast? with
    | none => exact Nat.zero_le limit
    | some value => exact each value (List.mem_of_getLast? last)
  · obtain ⟨inner, rfl⟩ : ∃ inner, limit = inner + 1 := ⟨limit - 1, by omega⟩
    refine Json.nesting_object_le (Table.forall_mem_foldl_overlay (fun _ mem => absurd mem List.not_mem_nil) ?_)
    intro table mem entry listed
    obtain ⟨value, among, object⟩ := List.mem_filterMap.mp mem
    cases value with
    | object members =>
      cases object
      exact Nat.le_of_lt_succ ((Json.nesting_member_lt listed).trans_le (each _ among))
    | _ => cases object

theorem referenceValue_nesting {next : Node → Walking σ Json} {pointer : String}
    (positive : 1 ≤ limit) (shallow : Shallow plan depth node)
    (each : ∀ n, Shallow plan depth n → Makes (next n) (·.nesting ≤ limit)) :
    Makes (referenceValue plan next pointer) (·.nesting ≤ limit) := by
  unfold referenceValue
  split
  · rename_i place target lookup
    refine (makes_any _).bind fun followed _ => ?_
    split
    · exact keeps_pure positive
    · exact Walking.makes_following (each target (shallow.target lookup))
  · exact keeps_pure (Nat.zero_le limit)
  · exact makes_throw _

/-! ### Leaves -/

variable [Source σ]

theorem nesting_ofBinary64 (x : Binary64) : (Json.ofBinary64 x).nesting = 0 := by
  cases x <;> rfl

theorem leafDraw_nesting (setting : Setting σ) (kind : Kind) (k : Keywords) :
    Makes (leafDraw setting kind k) (·.nesting ≤ 1) := by
  cases kind with
  | string => exact makes_map _ fun _ => Nat.zero_le 1
  | number =>
    refine makes_drawn ((numberDraw_gives (fun _ _ _ => Draw.gives_any _) (Draw.gives_any _)).mono ?_)
    rintro value ⟨x, -, rfl⟩
    exact (nesting_ofBinary64 x).le.trans (Nat.zero_le 1)
  | integer =>
    refine makes_drawn ((integerDraw_gives k).mono fun value whole => ?_)
    obtain ⟨n, rfl⟩ := whole
    exact Nat.zero_le 1
  | boolean => exact makes_map _ fun _ => Nat.zero_le 1
  | object => exact keeps_pure (Nat.le_refl 1)
  | array => exact keeps_pure (Nat.le_refl 1)
  | null => exact keeps_pure (Nat.zero_le 1)

theorem partialValue_nesting (shallow : Shallow plan limit node) :
    Makes (partialValue plan node) (·.nesting ≤ max 1 limit) := by
  unfold partialValue
  cases driver : node.driver with
  | constant value =>
    exact keeps_pure ((shallow.literal (Node.constant_mem_literals driver)).trans (Nat.le_max_right _ _))
  | enumeration first rest =>
    have listed := shallow.literal (Node.enumeration_mem_literals driver List.mem_cons_self)
    exact keeps_pure (listed.trans (Nat.le_max_right _ _))
  | typed kind =>
    refine (Walking.makes_lift (leafDraw_nesting plan.setting kind node.toKeywords)).mono fun value small => ?_
    exact small.trans (Nat.le_max_left _ _)
  | _ => exact keeps_pure (Nat.le_max_left _ _)

/-! ### Parts of a walk -/

section

variable {next : Node → Walking σ Json}

theorem memberValues_nesting {properties : List (String × Node)}
    (each : ∀ entry ∈ properties, Makes (next entry.2) (·.nesting ≤ limit)) :
    Makes (memberValues plan next node properties) (∀ entry ∈ ·, entry.2.nesting ≤ limit) := by
  induction properties with
  | nil => exact keeps_pure fun _ mem => absurd mem List.not_mem_nil
  | cons entry properties ih =>
    obtain ⟨here, behind⟩ := List.forall_mem_cons.mp each
    refine (makes_any _).bind fun included _ => ?_
    split
    · refine here.bind fun value small => (ih behind).bind fun rest smaller => keeps_pure ?_
      exact List.forall_mem_cons.mpr ⟨small, smaller⟩
    · exact ih behind

theorem elementValues_nesting
    (each : ∀ items, node.items = some items → ∀ item ∈ items.nodes, Makes (next item) (·.nesting ≤ limit)) :
    Makes (elementValues next node) (∀ element ∈ ·, element.nesting ≤ limit) := by
  unfold elementValues
  split
  · rename_i positions items
    exact Keeps.mapM_all (each _ items)
  · rename_i item items
    refine (makes_any _).bind fun _ _ => (makes_any _).bind fun count _ => Keeps.mapM_all fun item' mem => ?_
    rw [List.eq_of_mem_replicate mem]
    exact each _ items item List.mem_cons_self
  · exact Keeps.mapM_all fun _ _ => makes_map _ fun _ => Nat.zero_le limit

theorem kindValue_nesting {kind : Kind}
    (each : ∀ part ∈ node.components, Makes (next part) (·.nesting ≤ limit)) :
    Makes (kindValue plan next node kind) (·.nesting ≤ limit + 1) := by
  unfold kindValue
  split
  · refine (memberValues_nesting fun entry mem => ?_).bind fun members small =>
      keeps_pure (Json.nesting_object_le small)
    exact each entry.2 (Node.property_mem_components mem)
  · refine (elementValues_nesting fun items stated item mem => ?_).bind fun elements small =>
      keeps_pure (Json.nesting_array_le small)
    exact each item (Node.items_mem_components stated mem)
  · refine (Walking.makes_lift (leafDraw_nesting _ _ _)).mono fun value small => ?_
    exact small.trans (Nat.le_add_left 1 limit)

theorem branchValue_nesting {branches : List Node} (positive : 1 ≤ limit)
    (each : ∀ branch ∈ branches, Makes (next branch) (·.nesting ≤ limit)) :
    Makes (branchValue next branches) (·.nesting ≤ limit) := by
  cases branches with
  | nil => exact (makes_any _).bind fun _ _ => keeps_pure positive
  | cons first rest => exact (Walking.makes_draw (Draw.oneOf_gives first rest)).bind each

/-- A step makes a value at most one level deeper than the steps behind it do. -/
theorem drivenValue_nesting (positive : 1 ≤ limit) (deep : depth ≤ limit)
    (shallow : Shallow plan depth node)
    (each : ∀ n, Shallow plan depth n → Makes (next n) (·.nesting ≤ limit)) :
    Makes (drivenValue plan next node) (·.nesting ≤ limit + 1) := by
  have parts (part : Node) (mem : part ∈ node.components) : Makes (next part) (·.nesting ≤ limit) :=
    each part (shallow.component mem)
  have within {part : Walking σ Json} (makes : Makes part (·.nesting ≤ limit)) :
      Makes part (·.nesting ≤ limit + 1) :=
    makes.mono fun _ small => small.trans (Nat.le_succ limit)
  have literal {value : Json} (mem : value ∈ node.toKeywords.literals plan.options.useExamples) :
      value.nesting ≤ limit + 1 :=
    ((shallow.literal mem).trans deep).trans (Nat.le_succ limit)
  unfold drivenValue
  cases driver : node.driver with
  | reference pointer => exact within (referenceValue_nesting positive shallow each)
  | oneOf branches =>
    refine within (branchValue_nesting positive fun branch mem => parts branch ?_)
    exact Node.branch_mem_components (.inl (Node.oneOf_of_driver driver ▸ mem))
  | anyOf branches =>
    refine within (branchValue_nesting positive fun branch mem => parts branch ?_)
    exact Node.branch_mem_components (.inr (.inl (Node.anyOf_of_driver driver ▸ mem)))
  | allOf branches =>
    refine within ((Keeps.mapM_all fun branch mem => parts branch ?_).bind fun values small =>
      keeps_pure (mergeValues_nesting positive small))
    exact Node.branch_mem_components (.inr (.inr (Node.allOf_of_driver driver ▸ mem)))
  | constant value => exact keeps_pure (literal (Node.constant_mem_literals driver))
  | enumeration first rest =>
    exact (Walking.makes_draw (Draw.oneOf_gives first rest)).mono fun value mem =>
      literal (Node.enumeration_mem_literals driver mem)
  | typed kind => exact kindValue_nesting parts
  | union kinds =>
    dsimp only
    split
    · exact keeps_pure (Nat.zero_le _)
    · exact (makes_any _).bind fun kind _ => kindValue_nesting parts
  | untyped =>
    dsimp only
    split
    · rename_i value default
      exact keeps_pure (literal (Node.default_mem_literals default))
    · exact makes_map _ fun _ => Nat.zero_le _

end

/-! ### Whole walks -/

theorem nodeValue_nesting (shallow : Shallow plan limit node) (room : Nat) :
    Makes (nodeValue plan room node) (·.nesting ≤ room + max 1 limit) := by
  induction room generalizing node with
  | zero =>
    rw [Nat.zero_add]
    exact partialValue_nesting shallow
  | succ room ih =>
    have one : 1 ≤ room + max 1 limit := (Nat.le_max_left 1 limit).trans (Nat.le_add_left _ _)
    have deep : limit ≤ room + max 1 limit := (Nat.le_max_right 1 limit).trans (Nat.le_add_left _ _)
    rw [Nat.add_right_comm]
    unfold nodeValue
    split
    · rename_i value given
      exact keeps_pure (((exampleOf_nesting shallow given).trans deep).trans (Nat.le_succ _))
    · refine (makes_any _).bind fun null _ => ?_
      split
      · exact keeps_pure (Nat.zero_le _)
      · exact drivenValue_nesting one deep shallow fun n => ih

/-- A generated value is no deeper than the greatest depth of the walk and one, and the deepest value that is
written in the node or the document, which counts for one level at least. -/
theorem generate_nesting_le (plan : Plan σ) (node : Node) (source : σ) (value : Json)
    (made : (generate plan node source).1 = .ok value) :
    value.nesting ≤ plan.options.maxDepth + 1 +
      max 1 (plan.document.literalNesting plan.options.useExamples node) := by
  have shallow : Shallow plan (plan.document.literalNesting plan.options.useExamples node) node :=
    Nat.le_refl _
  have run := (nodeValue_nesting shallow (plan.options.maxDepth + 1) ⟨source, []⟩ trivial).1
  have same : (nodeValue plan (plan.options.maxDepth + 1) node ⟨source, []⟩).1 = .ok value := made
  rw [same] at run
  exact run

/-- What is left of a tower of three objects, one step deep, is as deep as that. -/
theorem generate_nesting_le_tower :
    let c := Compiler.ofConfig { maxDepth := 1 } {} 0
    let plan : Plan Cipher := c.plan ⟨0⟩ (Tower.document 3)
    let value : Json := .object [("in", .object [("in", .object [])])]
    (generate plan (Tower.tower 3) c.child.2).1 = .ok value ∧
      value.nesting ≤ plan.options.maxDepth + 1 +
        max 1 (plan.document.literalNesting plan.options.useExamples (Tower.tower 3)) ∧
      value.nesting = plan.options.maxDepth + 1 +
        max 1 (plan.document.literalNesting plan.options.useExamples (Tower.tower 3)) := by
  intro c plan value
  have made : (generate plan (Tower.tower 3) c.child.2).1 = .ok value :=
    congrArg Prod.fst (Tower.generate_tower plan rfl 0 c.child.2)
  exact ⟨made, generate_nesting_le plan (Tower.tower 3) c.child.2 value made, by decide⟩

end MockApi.Generation
