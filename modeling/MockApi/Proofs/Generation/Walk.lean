import MockApi.Proofs.Generation.Kinds
import MockApi.Proofs.Validation.Guard

/-!
# The walk of a generation

A walk from the root of a generable document succeeds at every node it comes to, with a value that fits
the node. It never meets a reference that it is following, since no walk comes back to a node.
-/

namespace MockApi

namespace Json

theorem Number.same_refl (n : Number) : n.same n = true := by
  cases n <;> simp [Number.same]

mutual

/-- Every value is the same as itself. -/
theorem same_refl : ∀ value : Json, value.same value = true
  | .null => by rw [same]
  | .bool b => by simp [same]
  | .number n => by rw [same, n.same_refl]
  | .string s => by simp [same]
  | .array elements => by rw [same, sameElements_refl elements]
  | .object members => by rw [same, sameMembers_refl members]

theorem sameElements_refl : ∀ elements : List Json, sameElements elements elements = true
  | [] => by rw [sameElements]
  | x :: rest => by simp [sameElements, same_refl x, sameElements_refl rest]

theorem sameMembers_refl : ∀ members : List (String × Json), sameMembers members members = true
  | [] => by rw [sameMembers]
  | (name, x) :: rest => by simp [sameMembers, same_refl x, sameMembers_refl rest]

end

end Json

namespace Generation

open Schema Validation

variable {doc : Document} {maxDepth : Nat} {node : Node} {steps : Nat}

/-! ### No way back -/

theorem Leads.trans {start middle last : Node} {more : Nat} (first : Leads doc start steps middle)
    (second : Leads doc middle more last) : Leads doc start (steps + more) last := by
  induction second with
  | here => exact first
  | step leads next ih => exact .step ih next

theorem Leads.cons {child last : Node} {more : Nat} (next : Child doc node child)
    (leads : Leads doc child more last) : Leads doc node (more + 1) last := by
  have whole := (Leads.here.step next).trans leads
  rwa [Nat.zero_add, Nat.add_comm] at whole

/-- Where the walks are bounded none comes back: the way back could be taken again and again. -/
theorem acyclic_of_bounded {bound : Nat}
    (bounded : ∀ steps node, Leads doc doc.root steps node → steps ≤ bound) (steps back : Nat)
    (node : Node) (leads : Leads doc doc.root steps node) : ¬ Leads doc node (back + 1) node := by
  intro cycle
  have again (rounds : Nat) : Leads doc doc.root (steps + rounds * (back + 1)) node := by
    induction rounds with
    | zero => simpa using leads
    | succ rounds ih =>
      have longer := ih.trans cycle
      rwa [Nat.add_assoc, ← Nat.succ_mul] at longer
  have far : bound + 1 ≤ (bound + 1) * (back + 1) := Nat.le_mul_of_pos_right _ (by omega)
  have within := bounded _ _ (again (bound + 1))
  omega

/-- No reference that a walk can come to from a node leads to a place that is being followed. -/
def Fresh (doc : Document) (following : List String) (start : Node) : Prop :=
  ∀ steps node pointer place target, Leads doc start steps node → node.driver = .reference pointer →
    doc.lookup pointer = .internal place target → place.key ∉ following

theorem Fresh.child {following : List String} {child : Node} (fresh : Fresh doc following node)
    (next : Child doc node child) : Fresh doc following child :=
  fun steps n pointer place target leads => fresh (steps + 1) n pointer place target (leads.cons next)

/-- Behind a reference its place is not met again: not as the same definition, and neither it nor what
is met there is the root, from which the walk has come. -/
theorem Fresh.reference {following : List String} {pointer : String} {place : Place} {target : Node}
    (generable : Generable doc maxDepth) (leads : Leads doc doc.root steps node)
    (fresh : Fresh doc following node) (driver : node.driver = .reference pointer)
    (lookup : doc.lookup pointer = .internal place target) :
    Fresh doc (place.key :: following) target := by
  intro more n pointer' place' target' below driver' lookup' mem
  have next : Child doc node target := .reference driver lookup
  have next' : Child doc n target' := .reference driver' lookup'
  have reached := leads.step next
  rcases List.mem_cons.mp mem with same | before
  · have there := nodeAt?_of_lookup lookup
    have there' := nodeAt?_of_lookup lookup'
    cases place with
    | root =>
      cases there
      exact generable.acyclic _ _ _ .here (leads.step next)
    | definition name =>
      cases place' with
      | root =>
        cases there'
        exact generable.acyclic _ _ _ .here ((reached.trans below).step next')
      | definition name' =>
        cases same
        cases there.symm.trans there'
        exact generable.acyclic _ _ _ reached (below.step next')
  · exact fresh (more + 1) n pointer' place' target' (below.cons next) driver' lookup' before

/-! ### What stands for a node -/

variable {σ : Type} [Source σ] {plan : Plan σ} {following : List String}

/-- A value of a node that stands for no object fits it as soon as it satisfies it. -/
theorem fit_of_meets {value : Json} {driver : Driver} (same : node.driver = driver)
    (typed : driver ≠ .typed .object) (reference : ∀ pointer, driver ≠ .reference pointer)
    (meets : Meets doc (fun _ => Satisfies doc) node value) : Fit doc node value where
  satisfies := satisfies_iff.mpr meets
  fills object behind := by
    rcases behind.driver with object | ⟨pointer, followed⟩
    · exact absurd (same.symm.trans object) typed
    · exact absurd (same.symm.trans followed) (reference pointer)

theorem fit_of_kind {value : Json} {kind : Kind} (driver : node.driver = .typed kind)
    (meets : KindMeets (fun _ => Satisfies doc) node kind value)
    (fills : kind = .object → ∃ members, value = .object members ∧ Fills doc node members) :
    Fit doc node value where
  satisfies := satisfies_iff.mpr (.typed driver meets)
  fills object behind := by
    obtain ⟨isObject, rfl⟩ := behind.eq_of_typed driver
    exact fills isObject

theorem fit_null (nullable : node.isNullable = true) : Fit doc node .null where
  satisfies := satisfies_iff.mpr (.null rfl nullable)
  fills object behind := by
    rw [behind.isNullable] at nullable
    cases nullable

/-- A reference fits what its target fits. -/
theorem fit_reference {value : Json} {pointer : String} {place : Place} {target : Node}
    (driver : node.driver = .reference pointer) (lookup : doc.lookup pointer = .internal place target)
    (fit : Fit doc target value) : Fit doc node value where
  satisfies := satisfies_iff.mpr (.internal driver lookup fit.satisfies)
  fills object behind := by
    cases behind with
    | here driver' present => cases driver.symm.trans driver'
    | reference driver' present lookup' behind =>
      cases driver.symm.trans driver'
      cases lookup.symm.trans lookup'
      exact fit.fills object behind

theorem fit_external {pointer : String} (driver : node.driver = .reference pointer)
    (lookup : doc.lookup pointer = .external) (value : Json) : Fit doc node value where
  satisfies := satisfies_iff.mpr (.external driver lookup)
  fills object behind := by
    cases behind with
    | here driver' present => cases driver.symm.trans driver'
    | reference driver' present lookup' behind =>
      cases driver.symm.trans driver'
      cases lookup.symm.trans lookup'

/-- An empty object fits whatever it satisfies: an object node behind it then requires nothing. -/
theorem fit_empty (satisfies : Satisfies doc node (.object [])) : Fit doc node (.object []) where
  satisfies := satisfies
  fills object behind := by
    refine ⟨[], rfl, .nil ?_⟩
    induction behind with
    | here driver present =>
      cases (meets_typed rfl driver).mp (satisfies_iff.mp satisfies) with
      | object required properties =>
        refine List.eq_nil_iff_forall_not_mem.mpr fun name mem => ?_
        have has := required name mem
        cases has
    | reference driver present lookup behind ih =>
      exact ih ((meets_internal rfl driver lookup).mp (satisfies_iff.mp satisfies))

/-- Beyond the depth the leaf of a kind fits a bare node. -/
theorem bareLeaf_yields {kind : Kind} (supported : KindSupported node kind)
    (driver : node.driver = .typed kind) (bare : Bare doc node) :
    (Walking.lift (leafDraw plan.setting kind node.toKeywords)).Yields following (Fit doc node) := by
  unfold Bare at bare
  rw [driver] at bare
  by_cases object : kind = .object
  · subst object
    have fills : Fills doc node [] := .nil bare
    exact Walking.yields_lift (Generate.gives_pure (fit_of_kind driver fills.meets fun _ =>
      ⟨[], rfl, fills⟩))
  by_cases array : kind = .array
  · subst array
    have least : node.minItems.getD 0 = 0 := bare
    refine Walking.yields_lift (Generate.gives_pure (fit_of_kind driver (.array ⟨?_, fun _ _ => Nat.zero_le _⟩ ?_) nofun))
    · intro min stated
      rw [stated] at least
      exact Nat.le_of_eq least
    · unfold ItemsMeet
      split <;> simp
  · exact Walking.yields_lift ((leafDraw_gives supported object array).mono fun value meets =>
      fit_of_kind driver meets fun same => absurd same object)

theorem Supported.kind {kind : Kind} (supported : Supported doc node)
    (driver : node.driver = .typed kind) : KindSupported node kind := by
  cases supported with
  | typed driver' kindSupported =>
    cases driver.symm.trans driver'
    exact kindSupported
  | _ => simp_all

/-- Beyond the depth a bare node gets a value that fits it. -/
theorem partialValue_yields (supported : Supported doc node) (bare : Bare doc node) :
    (partialValue plan node).Yields following (Fit doc node) := by
  have whole := bare
  unfold partialValue
  unfold Bare at bare
  cases driver : node.driver with
  | constant value =>
    exact Walking.yields_pure (fit_of_meets driver nofun nofun (.constant driver (Json.same_refl _)))
  | enumeration first rest =>
    exact Walking.yields_pure
      (fit_of_meets driver nofun nofun (.enumeration driver List.mem_cons_self (Json.same_refl _)))
  | typed kind => exact bareLeaf_yields (supported.kind driver) driver whole
  | untyped => exact Walking.yields_pure (fit_of_meets driver nofun nofun (.untyped driver))
  | _ =>
    rw [driver] at bare
    exact Walking.yields_pure (fit_empty bare)

/-! ### One step of the walk -/

theorem union_ne_nil {kinds : List Kind} (driver : node.driver = .union kinds) : kinds ≠ [] := by
  rintro rfl
  unfold Node.driver Node.typeDriver at driver
  repeat' split at driver
  all_goals simp_all

theorem drawsNull_yields (node : Node) : (drawsNull node : Walking σ Bool).Yields following
    fun isNull => isNull = true → node.isNullable = true := by
  unfold drawsNull
  split
  · rename_i nullable
    exact (Walking.yields_draw (Draw.gives_any _)).mono fun _ _ _ => nullable
  · exact Walking.yields_pure nofun

omit [Source σ] in
theorem referenceValue_yields {next : Node → Walking σ Json} {pointer : String} {place : Place}
    {target : Node} (generable : Generable plan.document maxDepth)
    (leads : Leads plan.document plan.document.root steps node)
    (fresh : Fresh plan.document following node) (driver : node.driver = .reference pointer)
    (lookup : plan.document.lookup pointer = .internal place target)
    (each : ∀ following, Fresh plan.document following target →
      (next target).Yields following (Fit plan.document target)) :
    (referenceValue plan next pointer).Yields following (Fit plan.document node) := by
  have unmet : following.contains place.key = false := by
    simpa using fresh 0 node pointer place target .here driver lookup
  unfold referenceValue
  rw [lookup]
  refine (Walking.yields_isFollowing place.key).bind fun met same => ?_
  rw [same, unmet]
  have behind := each _ (fresh.reference generable leads driver lookup)
  exact (Walking.yields_following behind).mono fun value fit => fit_reference driver lookup fit

/-- A value for a node fits it, if the walk goes on to values that fit. -/
theorem drivenValue_yields {next : Node → Walking σ Json}
    (generable : Generable plan.document maxDepth)
    (leads : Leads plan.document plan.document.root steps node)
    (fresh : Fresh plan.document following node)
    (each : ∀ child following, Child plan.document node child → Fresh plan.document following child →
      (next child).Yields following (Fit plan.document child)) :
    (drivenValue plan next node).Yields following (Fit plan.document node) := by
  have here (child : Node) (child_of : Child plan.document node child) :
      (next child).Yields following (Fit plan.document child) :=
    each child following child_of (fresh.child child_of)
  have satisfying (child : Node) (child_of : Child plan.document node child) :
      (next child).Yields following (Satisfies plan.document child) :=
    (here child child_of).mono fun value fit => fit.satisfies
  unfold drivenValue
  cases generable.supported steps node leads with
  | internal driver lookup =>
    rw [driver]
    exact referenceValue_yields generable leads fresh driver lookup fun following fresh =>
      each _ following (.reference driver lookup) fresh
  | @external pointer driver lookup =>
    rw [driver]
    show (referenceValue plan next pointer).Yields _ _
    unfold referenceValue
    rw [lookup]
    exact Walking.yields_pure (fit_external driver lookup _)
  | @anyOf branches driver =>
    rw [driver]
    cases branches with
    | nil => exact absurd rfl (Node.anyOf_ne_nil driver)
    | cons first rest =>
      refine (Walking.yields_draw (Draw.oneOf_gives first rest)).bind fun branch mem => ?_
      exact (satisfying branch (.anyOf driver mem)).mono fun value satisfies =>
        fit_of_meets driver nofun nofun (.anyOf driver mem satisfies)
  | allOf driver objects apart =>
    rw [driver]
    refine (Walking.yields_mapM fun branch mem => here branch (.allOf driver mem)).bind
      fun values fit => Walking.yields_pure ?_
    exact fit_of_meets driver nofun nofun (.allOf driver fun branch mem =>
      satisfies_mergeValues fit objects apart mem)
  | constant driver =>
    rw [driver]
    exact Walking.yields_pure (fit_of_meets driver nofun nofun (.constant driver (Json.same_refl _)))
  | enumeration driver =>
    rw [driver]
    refine (Walking.yields_draw (Draw.oneOf_gives _ _)).mono fun value mem => ?_
    exact fit_of_meets driver nofun nofun (.enumeration driver mem (Json.same_refl value))
  | typed driver kindSupported =>
    rw [driver]
    exact (kindValue_yields kindSupported (.inl driver) satisfying).mono fun value holds =>
      fit_of_kind driver holds.1 holds.2
  | @union kinds driver kindsSupported =>
    rw [driver]
    dsimp only
    split
    · rename_i only_null
      obtain ⟨kind, mem⟩ := List.exists_mem_of_ne_nil _ (union_ne_nil driver)
      have isNull : kind = .null := by
        simpa using List.filter_eq_nil_iff.mp only_null kind mem
      subst isNull
      exact Walking.yields_pure (fit_of_meets driver nofun nofun (.union driver mem .null))
    · rename_i first rest others
      refine (Walking.yields_draw (Draw.oneOf_gives first rest)).bind fun kind drawn => ?_
      have mem : kind ∈ kinds := List.mem_of_mem_filter (others ▸ drawn)
      exact (kindValue_yields (kindsSupported kind mem) (.inr ⟨kinds, driver, mem⟩) satisfying).mono
        fun value holds => fit_of_meets driver nofun nofun (.union driver mem holds.1)
  | untyped driver =>
    rw [driver]
    dsimp only
    split
    · exact Walking.yields_pure (fit_of_meets driver nofun nofun (.untyped driver))
    · exact (Walking.yields_draw (Draw.gives_any _)).bind fun text _ =>
        Walking.yields_pure (fit_of_meets driver nofun nofun (.untyped driver))

/-- At a node the walk succeeds with a value that fits the node. -/
theorem nodeValue_yields {room : Nat} (generable : Generable plan.document maxDepth)
    (noExamples : plan.options.useExamples = false)
    (leads : Leads plan.document plan.document.root steps node) (depth : steps + room = maxDepth + 1)
    (fresh : Fresh plan.document following node) :
    (nodeValue plan room node).Yields following (Fit plan.document node) := by
  induction room generalizing steps node following with
  | zero =>
    have last : steps = maxDepth + 1 := depth
    subst last
    exact partialValue_yields (generable.supported _ node leads) (generable.bare node leads)
  | succ room ih =>
    have none_given : exampleOf plan node = none := by
      rw [exampleOf, noExamples]
      rfl
    unfold nodeValue
    rw [none_given]
    refine (drawsNull_yields node).bind fun isNull nullable => ?_
    cases isNull with
    | true => exact Walking.yields_pure (fit_null (nullable rfl))
    | false =>
      refine drivenValue_yields generable leads fresh fun child following next fresh => ?_
      exact ih (leads.step next) (by omega) fresh

end Generation

end MockApi
