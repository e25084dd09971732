import MockApi.Proofs.Validation.Guard
import MockApi.Proofs.Validation.Sealed

/-!
# A root put in the place of references to it

The references from the root of a document may be followed once and for all, and the node that they lead
to be made the root, with no more members required. A check then follows fewer references, and takes fewer
for granted; what the first document accepts, the second one accepts all the same (`Replaces.accepts`), if
nothing else depends on what the root was (`Unseen`). For what the first document has taken for granted, it
has accepted at the same path before (`Backed`), and the two checks take different references for granted
only where those lead back to the root (`Turning`).
-/

namespace MockApi.Validation

open Schema

variable {doc body : Document} {node node' n : Node} {value whole v : Json} {guard guard' : Guard}
  {path : String}

/-! ### What is taken for granted was accepted -/

/-- Each reference that is being followed at a path was accepted there, while those before it were being
followed. -/
inductive Backed (doc : Document) (value : Json) (path : String) : Guard → Prop
  | fresh {guard : Guard} (unfollowed : ∀ key, (key, path) ∉ guard) : Backed doc value path guard
  | follow {guard : Guard} {place : Place} {target : Node} (backed : Backed doc value path guard)
      (at_place : nodeAt? doc place = some target)
      (accepted : check doc ((place.key, path) :: guard) target value path = .ok ()) :
      Backed doc value path ((place.key, path) :: guard)

namespace Backed

variable {place : Place} {target : Node}

/-- A reference that is being followed was accepted. -/
theorem again (keys : rootKey ∉ Table.names doc.definitions) (backed : Backed doc value path guard)
    (at_place : nodeAt? doc place = some target) (followed : (place.key, path) ∈ guard) :
    ∃ guard₁, guard₁ ⊆ guard ∧ Backed doc value path guard₁ ∧
      check doc guard₁ target value path = .ok () := by
  induction backed with
  | fresh unfollowed => exact absurd followed (unfollowed place.key)
  | @follow guard place' target' backed at_place' accepted ih =>
    rcases List.mem_cons.mp followed with here | before
    · obtain rfl := nodeAt?_eq_of_key keys at_place at_place' (Prod.mk.inj here).1.symm
      exact ⟨_, fun _ mem => mem, .follow backed at_place' accepted, accepted⟩
    · obtain ⟨guard₁, fewer, rest⟩ := ih before
      exact ⟨guard₁, fun _ mem => List.mem_cons_of_mem _ (fewer mem), rest⟩

/-- Behind a reference that is accepted, its target was or is accepted. -/
theorem behind (keys : rootKey ∉ Table.names doc.definitions) (backed : Backed doc value path guard)
    (at_place : nodeAt? doc place = some target)
    (accepts : Accepts doc guard path (.reference place) target value) :
    ∃ guard₁, guard₁ ⊆ (place.key, path) :: guard ∧ Backed doc value path guard₁ ∧
      check doc guard₁ target value path = .ok () := by
  rcases accepts with followed | accepted
  · obtain ⟨guard₁, fewer, rest⟩ := backed.again keys at_place followed
    exact ⟨guard₁, fun _ mem => List.mem_cons_of_mem _ (fewer mem), rest⟩
  · exact ⟨_, fun _ mem => mem, .follow backed at_place accepted, accepted⟩

end Backed

/-! ### The references from the root -/

/-- The places that the references from the root lead to, one after the other, and their nodes. -/
inductive RootChain (doc : Document) : Place → Node → Prop
  | root : RootChain doc .root doc.root
  | next {place place' : Place} {node target : Node} {pointer : String} (chain : RootChain doc place node)
      (driver : node.driver = .reference pointer)
      (lookup : doc.lookup pointer = .internal place' target) : RootChain doc place' target

/-- The key of such a place. -/
def ChainKey (doc : Document) (key : String) : Prop :=
  ∃ place node, RootChain doc place node ∧ place.key = key

theorem chainKey_root : ChainKey doc rootKey := ⟨.root, doc.root, .root, rfl⟩

theorem driver_of_reference {pointer : String} (reference : node.reference = some pointer) :
    node.driver = .reference pointer := by
  rw [Node.driver, reference]

/-- The node that the references from the root end at accepts, while more references of the chain are being
followed, or fewer. -/
def EndAccepts (doc : Document) (value : Json) (path : String) (guard : Guard) : Prop :=
  ∃ guard₁, Backed doc value path guard₁ ∧ Confined path guard₁ ∧
    (∀ key, (key, path) ∈ guard₁ → (key, path) ∈ guard ∨ ChainKey doc key) ∧
    check doc guard₁ doc.resolvedRoot value path = .ok ()

/-- Where a node of the chain accepts, the last one does. The induction goes over the references that are
followed. -/
theorem endAccepts_of_chain (keys : rootKey ∉ Table.names doc.definitions)
    (nullable : value.isNull = true →
      ∀ place n, RootChain doc place n → n.isNullable = true → doc.resolvedRoot.isNullable = true)
    {fuel : Nat} {place : Place} (chain : RootChain doc place node)
    (last : doc.followFrom place node fuel = doc.resolvedRoot) (backed : Backed doc value path guard)
    (confined : Confined path guard) (accepted : check doc guard node value path = .ok ()) :
    EndAccepts doc value path guard := by
  induction fuel generalizing node place guard with
  | zero => exact ⟨guard, backed, confined, fun _ => .inl, last ▸ accepted⟩
  | succ fuel ih =>
    have stay (here : node = doc.resolvedRoot) : EndAccepts doc value path guard :=
      ⟨guard, backed, confined, fun _ => .inl, here ▸ accepted⟩
    rw [Document.followFrom] at last
    split at last
    · rename_i next target found
      split at last
      · exact stay last
      · obtain ⟨pointer, reference, lookup⟩ := Option.map_eq_some_iff.mp found
        have driver := driver_of_reference reference
        cases hn : value.isNull && node.isNullable with
        | true =>
          rw [Bool.and_eq_true] at hn
          have null : (value.isNull && doc.resolvedRoot.isNullable) = true := by
            rw [hn.1, nullable hn.1 place node chain hn.2]
            rfl
          exact ⟨guard, backed, confined, fun _ => .inl, check_null null⟩
        | false =>
          obtain ⟨guard₁, fewer, backed₁, accepted₁⟩ := backed.behind keys (nodeAt?_of_lookup lookup)
            ((check_internal_eq_ok hn driver lookup).mp accepted)
          have further : RootChain doc next target := .next chain driver lookup
          obtain ⟨guard₂, backed₂, confined₂, fewer₂, accepted₂⟩ :=
            ih further last backed₁ ((confined.cons _).mono fewer) accepted₁
          refine ⟨guard₂, backed₂, confined₂, fun key mem => ?_, accepted₂⟩
          rcases fewer₂ key mem with before | on_chain
          · rcases List.mem_cons.mp (fewer before) with here | before
            · exact .inr ⟨next, target, further, (Prod.mk.inj here).1.symm⟩
            · exact .inl before
          · exact .inr on_chain
    · exact stay last

/-! ### Two checks side by side -/

/-- A check of the node comes, at its place, to a reference to a place of the chain. -/
def Returns (doc body : Document) (node : Node) : Prop :=
  ∃ n pointer place target, SamePlace body node n ∧ n.driver = .reference pointer ∧
    body.lookup pointer = .internal place target ∧ ChainKey doc place.key

/-- The key of a place of the chain, or of a place that leads back to one. -/
def Turning (doc body : Document) (key : String) : Prop :=
  ChainKey doc key ∨
    ∃ place target, place.key = key ∧ nodeAt? body place = some target ∧ Returns doc body target

theorem Returns.of_samePlace (same : SamePlace body node n) (returns : Returns doc body n) :
    Returns doc body node := by
  obtain ⟨m, pointer, place, target, further, rest⟩ := returns
  exact ⟨m, pointer, place, target, same.trans further, rest⟩

/-- A node that comes to a reference to such a place comes to one of the chain. -/
theorem Turning.returns {pointer : String} {place : Place} {target : Node}
    (keys : rootKey ∉ Table.names body.definitions) (turning : Turning doc body place.key)
    (driver : node.driver = .reference pointer) (lookup : body.lookup pointer = .internal place target) :
    Returns doc body node := by
  rcases turning with chain | ⟨place', target', same, at_place', returns⟩
  · exact ⟨node, pointer, place, target, .refl, driver, lookup, chain⟩
  · obtain rfl := nodeAt?_eq_of_key keys (nodeAt?_of_lookup lookup) at_place' same
    have visit : Visit body node .null (.reference place) target' .null := .reference driver lookup
    exact returns.of_samePlace (.single ⟨_, _, visit, by simp⟩)

/-- Nothing in the second document depends on what the root of the first one was, but by what the root
accepts. -/
structure Unseen (doc body : Document) : Prop where
  /-- A root that asks for less is taken for what it was, or for anything. -/
  driver : body.root.driver = doc.resolvedRoot.driver ∨ body.root.driver = .untyped
  /-- No reference to the root lets a value be null that the last node does not. -/
  nullable : Rootless body body.root ∨
    ∀ place n, RootChain doc place n → n.isNullable = true → doc.resolvedRoot.isNullable = true
  keys : rootKey ∉ Table.names doc.definitions
  /-- Alternatives exclude each other, or do not see the difference. -/
  alternatives : ∀ n branches, Leads body body.root n → n.driver = .oneOf branches →
    Exclusive body n ∨ Rootless body n ∧ (SamePlace body body.root n → ¬Returns doc body n)

/-- The second document has the root that the references from the root of the first one lead to, with no
more members required. -/
structure Replaces (doc body : Document) : Prop extends Unseen doc body where
  shared : body.definitions = doc.definitions
  relaxes : Relaxes doc.resolvedRoot body.root

/-- A check of one document and one of the other at the same part of the value. -/
structure Alongside (doc body : Document) (whole : Json) (guard guard' : Guard) (path : String)
    (node node' : Node) (value : Json) : Prop where
  relaxes : Relaxes node node'
  driver : node'.driver = node.driver ∨ node'.driver = .untyped
  call : Call body whole guard' path node' value
  backed : Backed doc value path guard
  confined : Confined path guard
  /-- The same references are being followed, but for those that lead back to the root where it stands. -/
  agree : ∀ key, ((key, path) ∈ guard ↔ (key, path) ∈ guard') ∨
    SamePlace body body.root node' ∧ Turning doc body key

namespace Alongside

variable {place : Place} {target : Node} {pointer : String}

theorem turning (alongside : Alongside doc body whole guard guard' path node node' value) {key : String}
    (differs : ¬((key, path) ∈ guard ↔ (key, path) ∈ guard')) :
    SamePlace body body.root node' ∧ Turning doc body key :=
  (alongside.agree key).resolve_left differs

theorem branch (alongside : Alongside doc body whole guard guard' path node node' value)
    (visit : Visit body node' value .branch n value) :
    Alongside doc body whole guard guard' path n n value where
  relaxes := .refl n
  driver := .inl rfl
  call := alongside.call.visit visit not_false
  backed := alongside.backed
  confined := alongside.confined
  agree key := (alongside.agree key).imp_right (.imp_left fun same => same.visit visit (by simp))

theorem part {step : Step} (alongside : Alongside doc body whole guard guard' path node node' value)
    (plain : Plain body body.root whole) (visit : Visit body node' value (.part step) n v) :
    Alongside doc body whole guard guard' (step.extend path) n n v := by
  obtain ⟨confined', above⟩ := alongside.call.confined plain
  have below := (plain.leads alongside.call.leads).extend_ne above visit
  exact
    { relaxes := .refl n
      driver := .inl rfl
      call := alongside.call.visit visit not_false
      backed := .fresh (alongside.confined.fresh below)
      confined := alongside.confined.extend below
      agree := fun key =>
        .inl (iff_of_false (alongside.confined.fresh below key) (confined'.fresh below key)) }

/-- Behind a reference that leads back to the chain the two checks differ in nothing else: what the second
one has followed on the way to the reference leads back to the chain as well. -/
theorem turning_behind (replaces : Replaces doc body) (plain : Plain body body.root whole)
    (alongside : Alongside doc body whole guard guard' path node node' value)
    (driver : node'.driver = .reference pointer) (lookup : body.lookup pointer = .internal place target)
    (turning : Turning doc body place.key) {guard₁ : Guard}
    (fewer : ∀ key, (key, path) ∈ guard₁ → (key, path) ∈ guard ∨ Turning doc body key) {key : String}
    (differs : ¬((key, path) ∈ guard₁ ↔ (key, path) ∈ (place.key, path) :: guard')) :
    Turning doc body key := by
  by_cases followed : (key, path) ∈ (place.key, path) :: guard'
  · rcases List.mem_cons.mp followed with here | before
    · rwa [(Prod.mk.inj here).1]
    · obtain ⟨place', target', same, at_place, leads⟩ := alongside.call.followed plain before
      have returns := turning.returns (replaces.shared ▸ replaces.keys) driver lookup
      exact .inr ⟨place', target', same, at_place, returns.of_samePlace leads⟩
  · have mem : (key, path) ∈ guard₁ := by
      by_contra absent
      exact differs (iff_of_false absent followed)
    rcases fewer key mem with before | turning
    · exact (alongside.turning fun same => followed (List.mem_cons_of_mem _ (same.mp before))).2
    · exact turning

/-- Behind a reference to a definition. -/
theorem reference (replaces : Replaces doc body) (plain : Plain body body.root whole)
    (alongside : Alongside doc body whole guard guard' path node node' value)
    (driver : node'.driver = .reference pointer) (lookup' : body.lookup pointer = .internal place target)
    (lookup : doc.lookup pointer = .internal place target) (new : (place.key, path) ∉ guard')
    (accepts : Accepts doc guard path (.reference place) target value) :
    ∃ guard₁, check doc guard₁ target value path = .ok () ∧
      Alongside doc body whole guard₁ ((place.key, path) :: guard') path target target value := by
  have visit : Visit body node' value (.reference place) target value := .reference driver lookup'
  have call := alongside.call.visit visit new
  have at_place := nodeAt?_of_lookup lookup
  rcases accepts with granted | accepted
  · obtain ⟨guard₁, fewer, backed, accepted⟩ := alongside.backed.again replaces.keys at_place granted
    obtain ⟨at_root, turning⟩ := alongside.turning fun same => new (same.mp granted)
    refine ⟨guard₁, accepted, .refl target, .inl rfl, call, backed, alongside.confined.mono fewer,
      fun key => or_iff_not_imp_left.mpr fun differs => ⟨at_root.visit visit (by simp), ?_⟩⟩
    exact alongside.turning_behind replaces plain driver lookup' turning
      (fun _ mem => .inl (fewer mem)) differs
  · refine ⟨(place.key, path) :: guard, accepted, .refl target, .inl rfl, call,
      .follow alongside.backed at_place accepted, alongside.confined.cons _, fun key => ?_⟩
    rw [List.mem_cons, List.mem_cons]
    exact (alongside.agree key).imp (or_congr_right ·) (.imp_left fun same => same.visit visit (by simp))

/-- Behind a reference to the root. -/
theorem root (replaces : Replaces doc body) (plain : Plain body body.root whole)
    (alongside : Alongside doc body whole guard guard' path node node' value)
    (driver : node'.driver = .reference pointer)
    (lookup : body.lookup pointer = .internal .root body.root) (new : (rootKey, path) ∉ guard')
    (accepts : Accepts doc guard path (.reference .root) doc.root value) :
    ∃ guard₁, check doc guard₁ doc.resolvedRoot value path = .ok () ∧
      Alongside doc body whole guard₁ ((rootKey, path) :: guard') path doc.resolvedRoot body.root
        value := by
  have visit : Visit body node' value (.reference .root) body.root value := .reference driver lookup
  have nullable := replaces.nullable.resolve_left fun rootless =>
    rootless node' pointer _ alongside.call.leads driver lookup
  obtain ⟨guard₀, fewer₀, backed₀, accepted₀⟩ := alongside.backed.behind replaces.keys
    (show nodeAt? doc .root = some doc.root from rfl) accepts
  obtain ⟨guard₁, backed, confined, fewer₁, accepted⟩ := endAccepts_of_chain replaces.keys
    (fun _ => nullable) .root rfl backed₀ ((alongside.confined.cons _).mono fewer₀) accepted₀
  have fewer (key : String) (mem : (key, path) ∈ guard₁) :
      (key, path) ∈ guard ∨ Turning doc body key := by
    rcases fewer₁ key mem with before | on_chain
    · rcases List.mem_cons.mp (fewer₀ before) with here | before
      · exact .inr (.inl ((Prod.mk.inj here).1 ▸ chainKey_root))
      · exact .inl before
    · exact .inr (.inl on_chain)
  exact ⟨guard₁, accepted, replaces.relaxes, replaces.driver, alongside.call.visit visit new, backed,
    confined, fun key => or_iff_not_imp_left.mpr fun differs =>
      ⟨.refl, alongside.turning_behind replaces plain driver lookup (.inl chainKey_root) fewer differs⟩⟩

/-- Alternatives that do not see the difference are checked alike. -/
theorem check_branch_iff (replaces : Replaces doc body) (plain : Plain body body.root whole)
    (alongside : Alongside doc body whole guard guard' path node node' value)
    (visit : Visit body node' value .branch n value) (rootless : Rootless body node')
    (unseen : SamePlace body body.root node' → ¬Returns doc body node') :
    check doc guard n value path = .ok () ↔ check body guard' n value path = .ok () := by
  obtain ⟨confined', above⟩ := alongside.call.confined plain
  have agree : Agree body n path guard guard' := by
    intro m pointer place target same driver lookup
    refine (alongside.agree place.key).resolve_right fun ⟨at_root, turning⟩ => unseen at_root ?_
    have returns := turning.returns (replaces.shared ▸ replaces.keys) driver lookup
    exact returns.of_samePlace (.head ⟨_, _, visit, by simp⟩ same)
  exact check_sealed_iff replaces.shared whole guard' path n value guard (rootless.visit visit)
    (plain.leads (alongside.call.leads.visit visit)) agree alongside.confined confined' above

end Alongside

/-- What the first document accepts, the second one accepts at the same part of the value. The induction
goes over the visits of the check in the second one. -/
theorem Replaces.accepts (replaces : Replaces doc body) (plain : Plain body body.root whole)
    (guard' : Guard) (path : String) (node' : Node) (value : Json) :
    ∀ guard node, Alongside doc body whole guard guard' path node node' value →
      check doc guard node value path = .ok () → check body guard' node' value path = .ok () := by
  induction guard', path, node', value using visit_induction body with
  | step guard' path node' value ih =>
    intro guard node alongside accepted
    cases hn' : value.isNull && node'.isNullable with
    | true => exact check_null hn'
    | false =>
      have hn : (value.isNull && node.isNullable) = false := alongside.relaxes.isNullable ▸ hn'
      rcases alongside.driver with same | untyped
      swap
      · rw [check_driven hn' untyped]
        rfl
      cases driver : node.driver with
      | oneOf branches =>
        have driver' := same.trans driver
        have visit (branch : Node) (mem : branch ∈ branches) :
            Visit body node' value .branch branch value := .oneOf driver' mem
        rcases replaces.alternatives node' branches alongside.call.leads driver' with
          exclusive | ⟨rootless, unseen⟩
        · obtain ⟨branch, mem, holds⟩ := exists_of_check_oneOf hn driver accepted
          refine (exclusive.check_iff alongside.call driver' hn').mpr ⟨branch, mem, ?_⟩
          exact ih .branch branch value (visit branch mem) not_false guard branch
            (alongside.branch (visit branch mem)) holds
        · exact (check_oneOf_iff driver driver' hn hn' fun branch mem =>
            alongside.check_branch_iff replaces plain (visit branch mem) rootless unseen).mp accepted
      | reference pointer =>
        have driver' := same.trans driver
        rw [check_driven hn driver, driven_reference_eq_ok] at accepted
        rw [check_driven hn' driver', driven_reference_eq_ok]
        rcases lookup_cases replaces.shared pointer with ⟨found, found'⟩ | ⟨found, other⟩
        · simp only [Asks, found] at accepted
          simp only [Asks, found']
          by_cases followed : (rootKey, path) ∈ guard'
          · exact .inl followed
          · obtain ⟨guard₁, accepted₁, further⟩ :=
              alongside.root replaces plain driver' found' followed accepted
            exact .inr (ih (.reference .root) body.root value (.reference driver' found') followed
              guard₁ _ further accepted₁)
        · cases lookup : doc.lookup pointer with
          | internal place target =>
            simp only [Asks, lookup] at accepted
            simp only [Asks, found, lookup]
            have lookup' := found.trans lookup
            by_cases followed : (place.key, path) ∈ guard'
            · exact .inl followed
            · obtain ⟨guard₁, accepted₁, further⟩ :=
                alongside.reference replaces plain driver' lookup' lookup followed accepted
              exact .inr (ih (.reference place) target value (.reference driver' lookup') followed
                guard₁ _ further accepted₁)
          | external => simp only [Asks, found, lookup]
          | missing => simp only [Asks, lookup] at accepted
      | _ =>
        have driver' := same.trans driver
        have single : ∀ branches, node.driver ≠ .oneOf branches := by simp [driver]
        have single' : ∀ branches, node'.driver ≠ .oneOf branches := by simp [driver']
        rw [check_eq_ok single, meets_iff_asks hn driver] at accepted
        rw [check_eq_ok single', meets_iff_asks hn' driver']
        refine Asks.relax driver' alongside.relaxes (by simp)
          (fun move n v (visit : Visit body node' value move n v) accepts => ?_) accepted
        cases move with
        | branch =>
          obtain ⟨rfl, -⟩ := visit.branch_inv
          rw [accepts_branch] at accepts ⊢
          exact ih .branch n v visit not_false guard n (alongside.branch visit) accepts
        | part step =>
          rw [accepts_part] at accepts ⊢
          exact ih (.part step) n v visit not_false guard n (alongside.part plain visit) accepts
        | reference place =>
          cases visit with
          | reference driver'' => cases driver'.symm.trans driver''

/-- What the first document accepts as a whole, the second one accepts, null apart. -/
theorem Replaces.accepts_whole (replaces : Replaces doc body) (plain : Plain body body.root whole)
    (present : whole.isNull = false) (accepted : checkNode doc doc.root whole = .ok ()) :
    checkNode body body.root whole = .ok () := by
  obtain ⟨guard, backed, confined, fewer, accepted₁⟩ := endAccepts_of_chain replaces.keys
    (fun null => by simp [present] at null) .root rfl (.fresh (fun _ => List.not_mem_nil))
    (.nil rootPath) accepted
  refine replaces.accepts plain [] rootPath body.root whole guard doc.resolvedRoot
    ⟨replaces.relaxes, replaces.driver, .start, backed, confined, fun key => ?_⟩ accepted₁
  by_cases mem : (key, rootPath) ∈ guard
  · exact .inr ⟨.refl, .inl ((fewer key mem).resolve_left List.not_mem_nil)⟩
  · exact .inl (iff_of_false mem List.not_mem_nil)

end MockApi.Validation
