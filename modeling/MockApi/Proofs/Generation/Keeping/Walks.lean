import Mathlib.Logic.Relation
import MockApi.Proofs.Generation.Kinds
import MockApi.Proofs.Generation.Keeping.Leaves
import MockApi.Proofs.Generation.Keeping.Patterns

/-!
# Walks rely on what is met

A walk keeps every invariant and ends with a value, or with a fault that the nodes allow that it comes to
(`nodeValue_keeps`). Each part of a walk does so if the parts do that it goes on to, and the walk by
induction on its depth.
-/

namespace MockApi.Generation

open Schema

/-! ### Where a walk goes -/

/-- A walk may go on from one node to another. -/
inductive Onward (doc : Document) (node : Node) : Node → Prop
  | child {next : Node} (child : Child doc node next) : Onward doc node next
  | oneOf {branches : List Node} {branch : Node} (driver : node.driver = .oneOf branches)
      (mem : branch ∈ branches) : Onward doc node branch

/-- A walk from one node may come to another. -/
def Reaches (doc : Document) : Node → Node → Prop := Relation.ReflTransGen (Onward doc)

/-- The node asks for no text that is too long to be held. -/
def Short (k : Keywords) : Prop := ∀ min, k.minLength = some min → min < unholdableLength

/-- A walk from the node comes to short texts only, and to no reference whose fault is not among `F`. -/
structure Walkable (F : Fault → Prop) (doc : Document) (node : Node) : Prop where
  short : ∀ n, Reaches doc node n → Short n.toKeywords
  missing : ∀ n pointer, Reaches doc node n → n.reference = some pointer →
    doc.lookup pointer = .missing → F (.danglingReference pointer)

variable {σ : Type} [Source σ] {I : Invariant σ} {F : Fault → Prop} {doc : Document} {node : Node}

theorem Walkable.onward {next : Node} (walkable : Walkable F doc node) (step : Onward doc node next) :
    Walkable F doc next where
  short n reaches := walkable.short n (.head step reaches)
  missing n pointer reaches := walkable.missing n pointer (.head step reaches)

theorem Walkable.here (walkable : Walkable F doc node) : Short node.toKeywords :=
  walkable.short node .refl

/-! ### Leaves -/

theorem lengthBounds_short {k : Keywords} (short : Short k) :
    (lengthBounds k).2 < unholdableLength := by
  have least : k.minLength.getD 0 < unholdableLength := by
    cases stated : k.minLength with
    | none => exact Nat.lt_of_lt_of_le Nat.zero_lt_one (by decide)
    | some min => exact short min stated
  have limit : Nat.max (k.minLength.getD 0) textLimit < unholdableLength :=
    Nat.max_lt.mpr ⟨least, by decide⟩
  exact Nat.max_lt.mpr ⟨Nat.lt_of_le_of_lt (Nat.min_le_right _ _) limit, least⟩

theorem fillerDraw_keeps {k : Keywords} (short : Short k) :
    Keeps I.Holds F (fillerDraw k : Generate σ String) := by
  refine (keeps_drawn (Draw.natBetween_keeps (lengthBounds_ordered k))).bind fun length within => ?_
  have held : length < unholdableLength := Nat.lt_of_le_of_lt within.2 (lengthBounds_short short)
  exact (holdBelow_keeps held).bind fun _ _ => keeps_drawn (fillerText_keeps length)

theorem formatDraw_keeps {setting : Setting σ} (sampled : setting.samples.Keeps I) {k : Keywords}
    (short : Short k) : Keeps I.Holds F (formatDraw setting k) := by
  have least : (statedLength k).1 < unholdableLength :=
    Nat.lt_of_le_of_lt (lengthBounds_ordered k) (lengthBounds_short short)
  unfold formatDraw
  dsimp only
  split
  · exact keeps_pure trivial
  · exact sizedFormatText_keeps sampled _ _ least _

theorem stringDraw_keeps {setting : Setting σ} (sampled : setting.samples.Keeps I) {k : Keywords}
    (short : Short k) : Keeps I.Holds F (stringDraw setting k) := by
  refine (formatDraw_keeps sampled short).bind fun text _ => ?_
  cases text with
  | some text => exact keeps_pure trivial
  | none =>
    dsimp only
    split
    · exact keeps_drawn (Pattern.generate_keeps _ _ _)
    · exact fillerDraw_keeps short

theorem leafDraw_keeps {setting : Setting σ} (sampled : setting.samples.Keeps I) (kind : Kind)
    {k : Keywords} (short : Short k) : Keeps I.Holds F (leafDraw setting kind k) := by
  cases kind with
  | string => exact (stringDraw_keeps sampled short).map _
  | number => exact keeps_drawn (numberDraw_keeps k)
  | integer => exact keeps_drawn (integerDraw_keeps k)
  | boolean => exact (keeps_drawn (Draw.chance_keeps (I.met _ (by decide +kernel)))).map _
  | object => exact keeps_pure trivial
  | array => exact keeps_pure trivial
  | null => exact keeps_pure trivial

/-! ### Parts of a walk -/

section

variable {plan : Plan σ} {next : Node → Walking σ Json}

theorem partialValue_keeps (sampled : plan.setting.samples.Keeps I) (short : Short node.toKeywords) :
    Keeps (Walk.Holds I) F (partialValue plan node) := by
  unfold partialValue
  split
  · exact keeps_pure trivial
  · exact keeps_pure trivial
  · exact Walking.keeps_lift (leafDraw_keeps sampled _ short)
  · exact keeps_pure trivial

theorem referenceValue_keeps {pointer : String} (driver : node.driver = .reference pointer)
    (walkable : Walkable F plan.document node)
    (each : ∀ n, Onward plan.document node n → Keeps (Walk.Holds I) F (next n)) :
    Keeps (Walk.Holds I) F (referenceValue plan next pointer) := by
  unfold referenceValue
  split
  · rename_i place target found
    refine (Walking.keeps_isFollowing place.key).bind fun followed _ => ?_
    split
    · exact keeps_pure trivial
    · exact Walking.keeps_following (each target (.child (.reference driver found)))
  · exact keeps_pure trivial
  · rename_i found
    exact keeps_throw (walkable.missing node pointer .refl (Node.reference_of_driver driver) found)

theorem memberValues_keeps (allowed : I.Allows (.probability plan.options.optionalProbability))
    {properties : List (String × Node)}
    (each : ∀ name property, (name, property) ∈ properties → Keeps (Walk.Holds I) F (next property)) :
    Keeps (Walk.Holds I) F (memberValues plan next node properties) := by
  induction properties with
  | nil => exact keeps_pure trivial
  | cons entry properties ih =>
    obtain ⟨name, property⟩ := entry
    have rest := ih fun name property mem => each name property (List.mem_cons_of_mem _ mem)
    have asked : Keeps (Walk.Holds I) F (includesMember plan node name) := by
      unfold includesMember
      split
      · exact keeps_pure trivial
      · exact Walking.keeps_draw (Draw.chance_keeps allowed)
    refine asked.bind fun included _ => ?_
    split
    · exact (each name property List.mem_cons_self).bind fun value _ => rest.map _
    · exact rest

theorem elementValues_keeps
    (each : ∀ items, node.items = some items → match items with
      | .tuple positions => ∀ item ∈ positions, Keeps (Walk.Holds I) F (next item)
      | .single item => Keeps (Walk.Holds I) F (next item)) :
    Keeps (Walk.Holds I) F (elementValues next node) := by
  unfold elementValues
  split
  · rename_i positions items
    exact Keeps.mapM (each _ items)
  · rename_i item items
    have ends : (Demand.range (itemBounds node.toKeywords).1
        (Nat.max itemLimit (itemBounds node.toKeywords).1)).Met :=
      Int.ofNat_le.mpr (Nat.le_max_right _ _)
    refine (Walking.keeps_draw (Draw.rely_keeps (I.met _ ends))).bind fun _ _ => ?_
    refine (Walking.keeps_draw (Draw.natBetween_keeps (itemBounds_ordered _))).bind fun count _ => ?_
    exact Keeps.mapM fun item' mem => List.eq_of_mem_replicate mem ▸ each _ items
  · exact Keeps.mapM fun _ _ => (Walking.keeps_draw (fillerText_keeps _)).map _

theorem kindValue_keeps (sampled : plan.setting.samples.Keeps I)
    (allowed : I.Allows (.probability plan.options.optionalProbability)) {kind : Kind}
    (takes : Takes node kind) (short : Short node.toKeywords)
    (each : ∀ n, Onward plan.document node n → Keeps (Walk.Holds I) F (next n)) :
    Keeps (Walk.Holds I) F (kindValue plan next node kind) := by
  unfold kindValue
  split
  · refine (memberValues_keeps allowed fun name property mem => ?_).map _
    exact each property (.child (.property takes mem))
  · refine (elementValues_keeps fun items stated => ?_).map _
    cases items with
    | tuple positions => exact fun item mem => each item (.child (.tuple takes stated mem))
    | single item => exact each item (.child (.single takes stated))
  · exact Walking.keeps_lift (leafDraw_keeps sampled _ short)

/-- One of the branches is gone on with; there is one. -/
theorem branchValue_keeps {branches : List Node} (inhabited : branches ≠ [])
    (each : ∀ branch ∈ branches, Keeps (Walk.Holds I) F (next branch)) :
    Keeps (Walk.Holds I) F (branchValue next branches) := by
  cases branches with
  | nil => exact absurd rfl inhabited
  | cons first rest => exact (Walking.keeps_draw (Draw.oneOf_keeps first rest)).bind each

theorem drivenValue_keeps (sampled : plan.setting.samples.Keeps I)
    (allowed : I.Allows (.probability plan.options.optionalProbability))
    (walkable : Walkable F plan.document node)
    (each : ∀ n, Onward plan.document node n → Keeps (Walk.Holds I) F (next n)) :
    Keeps (Walk.Holds I) F (drivenValue plan next node) := by
  unfold drivenValue
  cases driver : node.driver with
  | reference pointer => exact referenceValue_keeps driver walkable each
  | oneOf branches =>
    exact branchValue_keeps (Node.oneOf_ne_nil driver) fun branch mem => each branch (.oneOf driver mem)
  | anyOf branches =>
    exact branchValue_keeps (Node.anyOf_ne_nil driver) fun branch mem =>
      each branch (.child (.anyOf driver mem))
  | allOf branches =>
    exact (Keeps.mapM fun branch mem => each branch (.child (.allOf driver mem))).map _
  | constant value => exact keeps_pure trivial
  | enumeration first rest =>
    exact (Walking.keeps_draw (Draw.oneOf_keeps first rest)).mono fun _ _ => trivial
  | typed kind => exact kindValue_keeps sampled allowed (.inl driver) walkable.here each
  | union kinds =>
    dsimp only
    split
    · exact keeps_pure trivial
    · rename_i first rest others
      refine (Walking.keeps_draw (Draw.oneOf_keeps first rest)).bind fun kind drawn => ?_
      have mem : kind ∈ kinds := List.mem_of_mem_filter (others ▸ drawn)
      exact kindValue_keeps sampled allowed (.inr ⟨kinds, driver, mem⟩) walkable.here each
  | untyped =>
    dsimp only
    split
    · exact keeps_pure trivial
    · exact (Walking.keeps_draw (fillerText_keeps _)).map _

theorem drawsNull_keeps (node : Node) :
    Keeps (Walk.Holds I) F (drawsNull node : Walking σ Bool) := by
  unfold drawsNull
  split
  · exact Walking.keeps_draw (Draw.chance_keeps (I.met _ (by decide +kernel)))
  · exact keeps_pure trivial

end

/-! ### Whole walks -/

variable {plan : Plan σ}

theorem nodeValue_keeps (sampled : plan.setting.samples.Keeps I)
    (allowed : I.Allows (.probability plan.options.optionalProbability))
    (walkable : Walkable F plan.document node) (room : Nat) :
    Keeps (Walk.Holds I) F (nodeValue plan room node) := by
  induction room generalizing node with
  | zero => exact partialValue_keeps sampled walkable.here
  | succ room ih =>
    unfold nodeValue
    split
    · exact keeps_pure trivial
    · refine (drawsNull_keeps node).bind fun isNull _ => ?_
      split
      · exact keeps_pure trivial
      · exact drivenValue_keeps sampled allowed walkable fun n step => ih (walkable.onward step)

theorem generate_keeps (sampled : plan.setting.samples.Keeps I)
    (allowed : I.Allows (.probability plan.options.optionalProbability))
    (walkable : Walkable F plan.document node) : Keeps I.Holds F (generate plan node) :=
  fun s holds => nodeValue_keeps sampled allowed walkable (plan.options.maxDepth + 1) ⟨s, []⟩ holds

end MockApi.Generation
