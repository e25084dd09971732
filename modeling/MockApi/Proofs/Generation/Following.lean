import Mathlib.Data.List.Perm.Subperm
import MockApi.Proofs.Generation.Yields
import MockApi.Proofs.Validation.Depth

/-!
# Which references are being followed

The keys of the references that a walk follows are put down at a reference and taken away behind it, whether the
walk behind it succeeds or not. So a node is left with the keys that it was come to with, and all its parts are
come to with these keys. On any way down the keys are distinct, and there are no more of them than the document
has places (`nodeValue_balanced`).
-/

namespace MockApi.Generation

open Schema Validation

variable {σ α β : Type}

/-! ### Parts that agree -/

/-- From a walk that is following these references the two parts do the same, and follow the same ones after
that. -/
def Walking.Agree (following : List String) (part other : Walking σ α) : Prop :=
  ∀ source, part ⟨source, following⟩ = other ⟨source, following⟩ ∧
    (part ⟨source, following⟩).2.following = following

namespace Walking

variable {following : List String} {part other : Walking σ α}

theorem agree_pure (value : α) : Agree following (pure value : Walking σ α) (pure value) :=
  fun _ => ⟨rfl, rfl⟩

theorem agree_throw (fault : Fault) : Agree following (throw fault : Walking σ α) (throw fault) :=
  fun _ => ⟨rfl, rfl⟩

theorem agree_lift (g : Generate σ α) : Agree following (lift g) (lift g) := fun _ => ⟨rfl, rfl⟩

theorem agree_draw (draw : Draw σ α) : Agree following (Walking.draw draw) (Walking.draw draw) :=
  agree_lift (drawn draw)

theorem Agree.bind {next next' : α → Walking σ β} (first : Agree following part other)
    (then_ : ∀ value, Agree following (next value) (next' value)) :
    Agree following (part >>= next) (other >>= next') := by
  intro source
  obtain ⟨same, kept⟩ := first source
  rcases run : part ⟨source, following⟩ with ⟨fault | value, after⟩ <;> rw [run] at same kept
  · rw [bind_of_error run, bind_of_error same.symm]
    exact ⟨rfl, kept⟩
  · rw [bind_of_ok run, bind_of_ok same.symm]
    obtain ⟨after, followed⟩ := after
    obtain rfl : followed = following := kept
    exact then_ value after

theorem Agree.map (agree : Agree following part other) (f : α → β) :
    Agree following (do return f (← part)) (do return f (← other)) :=
  agree.bind fun _ => agree_pure _

theorem Agree.mapM {ι : Type} {part other : ι → Walking σ α} {xs : List ι}
    (each : ∀ x ∈ xs, Agree following (part x) (other x)) :
    Agree following (xs.mapM part) (xs.mapM other) := by
  induction xs with
  | nil => exact agree_pure []
  | cons x xs ih =>
    rw [List.mapM_cons, List.mapM_cons]
    refine (each x List.mem_cons_self).bind fun value => ?_
    exact (ih fun x' mem => each x' (List.mem_cons_of_mem x mem)).map _

/-- What is behind a key that is put down, if it keeps the keys: the key is taken away again. -/
theorem following_of_kept {key : String} {source : σ}
    (kept : (part ⟨source, key :: following⟩).2.following = key :: following) :
    Walking.following key part ⟨source, following⟩ =
      ((part ⟨source, key :: following⟩).1, ⟨(part ⟨source, key :: following⟩).2.source, following⟩) := by
  show ((part ⟨source, key :: following⟩).1, (⟨(part ⟨source, key :: following⟩).2.source,
    (part ⟨source, key :: following⟩).2.following.erase key⟩ : Walk σ)) = _
  rw [kept, List.erase_cons_head]

theorem Agree.behind {key : String} (agree : Agree (key :: following) part other) :
    Agree following (Walking.following key part) (Walking.following key other) := by
  intro source
  obtain ⟨same, kept⟩ := agree source
  rw [following_of_kept kept, following_of_kept (same ▸ kept), same]
  exact ⟨rfl, rfl⟩

end Walking

open Walking (Agree agree_pure agree_lift agree_draw)

/-! ### References -/

variable {plan : Plan σ} {next next' : Node → Walking σ Json} {following : List String} {node : Node}

/-- A reference that is being followed gives an empty object, and any other one what is behind it. -/
theorem referenceValue_internal {pointer : String} {place : Place} {target : Node}
    (lookup : plan.document.lookup pointer = .internal place target) (walk : Walk σ) :
    referenceValue plan next pointer walk =
      if place.key ∈ walk.following then (.ok (.object []), walk)
      else Walking.following place.key (next target) walk := by
  unfold referenceValue
  rw [lookup]
  dsimp only
  rw [bind_of_ok (rfl : Walking.isFollowing place.key walk = (.ok (walk.following.contains place.key), walk))]
  by_cases followed : place.key ∈ walk.following
  · rw [if_pos followed, if_pos (List.contains_iff_mem.mpr followed)]
    rfl
  · rw [if_neg followed, if_neg (mt List.contains_iff_mem.mp followed)]

theorem referenceValue_agree {pointer : String}
    (behind : ∀ place target, plan.document.lookup pointer = .internal place target →
      place.key ∉ following → Agree (place.key :: following) (next target) (next' target)) :
    Agree following (referenceValue plan next pointer) (referenceValue plan next' pointer) := by
  cases lookup : plan.document.lookup pointer with
  | internal place target =>
    intro source
    rw [referenceValue_internal lookup, referenceValue_internal lookup]
    split
    · exact ⟨rfl, rfl⟩
    · rename_i new
      exact (behind place target lookup new).behind source
  | external =>
    unfold referenceValue
    rw [lookup]
    exact agree_pure _
  | missing =>
    unfold referenceValue
    rw [lookup]
    exact Walking.agree_throw _

/-! ### Parts of a walk -/

variable [Source σ]

theorem partialValue_agree (plan : Plan σ) (node : Node) :
    Agree following (partialValue plan node) (partialValue plan node) := by
  unfold partialValue
  split
  · exact agree_pure _
  · exact agree_pure _
  · exact agree_lift _
  · exact agree_pure _

section

variable (each : ∀ n, Agree following (next n) (next' n))

include each

theorem memberValues_agree (properties : List (String × Node)) :
    Agree following (memberValues plan next node properties) (memberValues plan next' node properties) := by
  induction properties with
  | nil => exact agree_pure _
  | cons entry rest ih =>
    obtain ⟨name, property⟩ := entry
    have included : Agree following (includesMember plan node name) (includesMember plan node name) := by
      unfold includesMember
      split
      · exact agree_pure _
      · exact agree_draw _
    unfold memberValues
    refine included.bind fun included => ?_
    split
    · exact (each property).bind fun value => ih.map _
    · exact ih

theorem elementValues_agree : Agree following (elementValues next node) (elementValues next' node) := by
  unfold elementValues
  split
  · exact Agree.mapM fun item _ => each item
  · refine (agree_draw _).bind fun _ => (agree_draw _).bind fun count => ?_
    exact Agree.mapM fun item _ => each item
  · exact Agree.mapM fun _ _ => (agree_draw _).map _

theorem kindValue_agree (kind : Kind) :
    Agree following (kindValue plan next node kind) (kindValue plan next' node kind) := by
  unfold kindValue
  split
  · exact (memberValues_agree each _).map _
  · exact (elementValues_agree each).map _
  · exact agree_lift _

theorem branchValue_agree (branches : List Node) :
    Agree following (branchValue next branches) (branchValue next' branches) := by
  cases branches with
  | nil => exact (agree_draw _).bind fun _ => agree_pure _
  | cons first rest => exact (agree_draw _).bind each

/-- Parts are come to with the same keys as the node, and what is behind its reference with one more that is
new. -/
theorem drivenValue_agree
    (behind : ∀ pointer place target, node.driver = .reference pointer →
      plan.document.lookup pointer = .internal place target → place.key ∉ following →
      Agree (place.key :: following) (next target) (next' target)) :
    Agree following (drivenValue plan next node) (drivenValue plan next' node) := by
  unfold drivenValue
  cases driver : node.driver with
  | reference pointer => exact referenceValue_agree fun place target => behind pointer place target driver
  | oneOf branches => exact branchValue_agree each branches
  | anyOf branches => exact branchValue_agree each branches
  | allOf branches => exact (Agree.mapM fun branch _ => each branch).map _
  | constant value => exact agree_pure _
  | enumeration first rest => exact agree_draw _
  | typed kind => exact kindValue_agree each kind
  | union kinds =>
    dsimp only
    split
    · exact agree_pure _
    · exact (agree_draw _).bind fun kind => kindValue_agree each kind
  | untyped =>
    dsimp only
    split
    · exact agree_pure _
    · exact (agree_draw _).map _

end

/-- One step of the walk, to which it is told what happens at the nodes behind. -/
def stepValue (plan : Plan σ) (next : Node → Walking σ Json) (node : Node) : Walking σ Json :=
  match exampleOf plan node with
  | some value => pure value
  | none => do
    if ← drawsNull node then return .null
    drivenValue plan next node

theorem stepValue_agree (driven : Agree following (drivenValue plan next node) (drivenValue plan next' node)) :
    Agree following (stepValue plan next node) (stepValue plan next' node) := by
  unfold stepValue
  split
  · exact agree_pure _
  · have asked : Agree following (drawsNull node : Walking σ Bool) (drawsNull node) := by
      unfold drawsNull
      split
      · exact agree_draw _
      · exact agree_pure _
    refine asked.bind fun null => ?_
    split
    · exact agree_pure _
    · exact driven

/-! ### Whole walks -/

/-- The walk, except that it strays wherever it comes to a node while other keys than `allowed` ones are being
followed. -/
def strayingValue (plan : Plan σ) (allowed : List String → Prop) [DecidablePred allowed]
    (stray : Node → Walking σ Json) : Nat → Node → Walking σ Json
  | 0, node => fun walk =>
    if allowed walk.following then partialValue plan node walk else stray node walk
  | room + 1, node => fun walk =>
    if allowed walk.following then stepValue plan (strayingValue plan allowed stray room) node walk
    else stray node walk

/-- The keys that were put down since `start`. -/
def newKeys (start following : List String) : List String :=
  following.take (following.length - start.length)

/-- What may be followed on a way on which `start` was followed at first: also new keys, each once, which are
not more than the document has places. -/
def WellNested (doc : Document) (start following : List String) : Prop :=
  newKeys start following ++ start = following ∧ (newKeys start following).Nodup ∧
    (∀ key ∈ newKeys start following, key ∉ start) ∧
    (newKeys start following).length ≤ doc.definitions.length + 1

instance (doc : Document) (start : List String) : DecidablePred (WellNested doc start) :=
  fun following => inferInstanceAs (Decidable
    (newKeys start following ++ start = following ∧ (newKeys start following).Nodup ∧
      (∀ key ∈ newKeys start following, key ∉ start) ∧
      (newKeys start following).length ≤ doc.definitions.length + 1))

/-- The keys on a way down: each was new, and is that of a place of the document. -/
structure Way (doc : Document) (start opened : List String) : Prop where
  distinct : opened.Nodup
  fresh : ∀ key ∈ opened, key ∉ start
  known : opened ⊆ keys doc

namespace Way

variable {doc : Document} {start opened : List String}

theorem nil (doc : Document) (start : List String) : Way doc start [] := ⟨.nil, nofun, nofun⟩

theorem behind (way : Way doc start opened) {pointer : String} {place : Place} {target : Node}
    (lookup : doc.lookup pointer = .internal place target) (new : place.key ∉ opened ++ start) :
    Way doc start (place.key :: opened) where
  distinct := List.nodup_cons.mpr ⟨fun mem => new (List.mem_append_left _ mem), way.distinct⟩
  fresh := List.forall_mem_cons.mpr ⟨fun mem => new (List.mem_append_right _ mem), way.fresh⟩
  known := List.cons_subset.mpr ⟨place_key_mem_keys lookup, way.known⟩

theorem wellNested (way : Way doc start opened) : WellNested doc start (opened ++ start) := by
  have new : newKeys start (opened ++ start) = opened := by
    rw [newKeys, List.length_append, Nat.add_sub_cancel, List.take_left]
  rw [WellNested, new]
  refine ⟨rfl, way.distinct, way.fresh, ?_⟩
  rw [← length_keys]
  exact (List.subperm_of_subset way.distinct way.known).length_le

end Way

theorem strayingValue_of_allowed {allowed : List String → Prop} [DecidablePred allowed]
    {stray : Node → Walking σ Json} {walk : Walk σ} (holds : allowed walk.following) (room : Nat) :
    strayingValue plan allowed stray 0 node walk = partialValue plan node walk ∧
      strayingValue plan allowed stray (room + 1) node walk =
        stepValue plan (strayingValue plan allowed stray room) node walk :=
  ⟨if_pos holds, if_pos holds⟩

/-- The walk never strays where the keys on its way are well nested, as they are. -/
theorem nodeValue_agree_straying (plan : Plan σ) (stray : Node → Walking σ Json) {start opened : List String}
    (way : Way plan.document start opened) (room : Nat) (node : Node) :
    Agree (opened ++ start) (nodeValue plan room node)
      (strayingValue plan (WellNested plan.document start) stray room node) := by
  induction room generalizing node opened with
  | zero =>
    intro source
    rw [(strayingValue_of_allowed way.wellNested 0).1]
    exact partialValue_agree plan node source
  | succ room ih =>
    intro source
    rw [(strayingValue_of_allowed way.wellNested room).2]
    refine stepValue_agree (drivenValue_agree (fun n => ih way n) ?_) source
    exact fun pointer place target _ lookup new => ih (way.behind lookup new) target

/-- The keys that are being followed are the same after a walk as before, whether it succeeds or not. On every
way down they are well nested: whatever the walk would do with other keys, it never comes to do it. A reference
gives an empty object if its key is being followed, and otherwise what is made behind it with the key put down.
And a node that is no reference has all its parts made with the keys that are followed at the node itself:
what would be made of them with other keys makes no difference. -/
theorem nodeValue_balanced (plan : Plan σ) (room : Nat) (node : Node) (walk : Walk σ) :
    (nodeValue plan room node walk).2.following = walk.following ∧
    (∀ stray, strayingValue plan (WellNested plan.document walk.following) stray room node walk =
      nodeValue plan room node walk) ∧
    (∀ pointer place target, plan.document.lookup pointer = .internal place target →
      referenceValue plan (nodeValue plan room) pointer walk =
        if place.key ∈ walk.following then (.ok (.object []), walk)
        else
          let behind := nodeValue plan room target { walk with following := place.key :: walk.following }
          (behind.1, { behind.2 with following := walk.following })) ∧
    ((∀ pointer, node.driver ≠ .reference pointer) → ∀ next,
      (∀ n source, next n ⟨source, walk.following⟩ = nodeValue plan room n ⟨source, walk.following⟩) →
      drivenValue plan next node walk = drivenValue plan (nodeValue plan room) node walk) := by
  obtain ⟨source, start⟩ := walk
  have agree (start : List String) (n : Node) (stray : Node → Walking σ Json) :=
    nodeValue_agree_straying plan stray (Way.nil plan.document start) room n
  have kept (start : List String) (n : Node) (source : σ) :
      (nodeValue plan room n ⟨source, start⟩).2.following = start :=
    (agree start n (nodeValue plan room) source).2
  refine ⟨kept start node source, fun stray => ((agree start node stray source).1).symm, ?_, ?_⟩
  · intro pointer place target lookup
    rw [referenceValue_internal lookup]
    split
    · rfl
    · exact Walking.following_of_kept (kept _ target source)
  · intro noReference next same
    have each (n : Node) : Agree start (nodeValue plan room n) (next n) :=
      fun source => ⟨(same n source).symm, kept start n source⟩
    refine ((drivenValue_agree each ?_) source).1.symm
    exact fun pointer _ _ driver => absurd driver (noReference pointer)

end MockApi.Generation
