import MockApi.Proofs.Validation.Visits

/-!
# Nodes that do not see the root

Two documents with the same definitions differ in what `#` stands for. A node from which no check comes to
a reference to the root is checked alike in both (`check_sealed_iff`), as long as the same references are
being followed, of those that the node has at its place.
-/

namespace MockApi.Validation

open Schema

variable {doc body : Document} {R R' : Move → Node → Json → Prop} {node node' : Node} {value : Json}

/-! ### A node that asks for fewer members -/

/-- The node, with fewer members required. -/
def Relaxes (node node' : Node) : Prop :=
  ∃ required, required ⊆ node.required ∧ node' = { node with required }

theorem Relaxes.refl (node : Node) : Relaxes node node :=
  ⟨node.required, fun _ mem => mem, by cases node; rfl⟩

theorem Relaxes.isNullable (relaxes : Relaxes node node') : node'.isNullable = node.isNullable := by
  obtain ⟨required, -, rfl⟩ := relaxes
  rfl

theorem ItemsMeet.imp {items : Option (Items Node)} {elements : List Json}
    (meets : ItemsMeet R items elements)
    (single : ∀ item (i : Nat) element, items = some (.single item) → elements[i]? = some element →
      R (.part (.element i)) item element → R' (.part (.element i)) item element)
    (tuple : ∀ positions item (i : Nat) element, items = some (.tuple positions) →
      positions[i]? = some item → elements[i]? = some element →
      R (.part (.element i)) item element → R' (.part (.element i)) item element) :
    ItemsMeet R' items elements := by
  cases items with
  | none => trivial
  | some items =>
    cases items with
    | single item => exact fun i element found => single item i element rfl found (meets i element found)
    | tuple positions =>
      exact fun i item element position found =>
        tuple positions item i element rfl position found (meets i item element position found)

theorem KindMeets.relax {kind : Kind} (relaxes : Relaxes node node') (checked : kind ∈ node'.checkedKinds)
    (weaker : ∀ move n v, Visit body node' value move n v → R move n v → R' move n v)
    (meets : KindMeets R node kind value) : KindMeets R' node' kind value := by
  obtain ⟨required, fewer, rfl⟩ := relaxes
  cases meets with
  | object demanded properties =>
    refine .object (fun name mem => demanded name (fewer mem)) ?_
    intro name property mem member found
    exact weaker _ _ _ (.property checked mem found) (properties name property mem member found)
  | @array elements length items =>
    exact .array ⟨length.minItems, length.maxItems⟩ <| items.imp
      (fun item i element single found => weaker _ _ _ (.single checked single found))
      (fun positions item i element tuple position found =>
        weaker _ _ _ (.tuple checked tuple position found))
  | string fits => exact .string ⟨fits.minLength, fits.maxLength, fits.pattern, fits.format⟩
  | number fits =>
    exact .number ⟨fits.minimum, fits.maximum, fits.flaggedMinimum, fits.flaggedMaximum,
      fits.exclusiveMinimum, fits.exclusiveMaximum, fits.multipleOf⟩
  | integer whole fits =>
    exact .integer whole ⟨fits.minimum, fits.maximum, fits.flaggedMinimum, fits.flaggedMaximum,
      fits.exclusiveMinimum, fits.exclusiveMaximum, fits.multipleOf⟩
  | boolean => exact .boolean
  | null => exact .null

/-- What a node without a reference asks, asked of a node with fewer required members in any document. -/
theorem Asks.relax {doc' : Document} {driver : Driver} (own : node'.driver = driver)
    (relaxes : Relaxes node node') (inner : ∀ pointer, driver ≠ .reference pointer)
    (weaker : ∀ move n v, Visit body node' value move n v → R move n v → R' move n v)
    (asks : Asks doc R node value driver) : Asks doc' R' node' value driver := by
  cases driver with
  | reference pointer => exact absurd rfl (inner pointer)
  | allOf branches => exact fun branch mem => weaker _ _ _ (.allOf own mem) (asks branch mem)
  | anyOf branches =>
    obtain ⟨branch, mem, holds⟩ := asks
    exact ⟨branch, mem, weaker _ _ _ (.anyOf own mem) holds⟩
  | oneOf branches => exact asks.elim
  | constant expected => exact asks
  | enumeration first rest => exact asks
  | typed kind =>
    have checked : kind ∈ node'.checkedKinds := by simp [Node.checkedKinds, own]
    exact KindMeets.relax relaxes checked weaker asks
  | union kinds =>
    obtain ⟨kind, mem, meets⟩ := asks
    have checked : kind ∈ node'.checkedKinds := by simpa [Node.checkedKinds, own] using mem
    exact ⟨kind, mem, meets.relax relaxes checked weaker⟩
  | untyped => trivial

/-! ### References in documents with the same definitions -/

theorem lookup_cases (shared : body.definitions = doc.definitions) (pointer : String) :
    doc.lookup pointer = .internal .root doc.root ∧ body.lookup pointer = .internal .root body.root ∨
    body.lookup pointer = doc.lookup pointer ∧ ∀ target, doc.lookup pointer ≠ .internal .root target := by
  unfold Document.lookup
  rw [shared]
  split
  · exact .inr ⟨rfl, nofun⟩
  split
  · exact .inl ⟨rfl, rfl⟩
  split
  · exact .inr ⟨rfl, nofun⟩
  split <;> exact .inr ⟨rfl, nofun⟩

/-! ### Nodes that do not see the root -/

/-- No check of the node comes to a reference to the root. -/
def Rootless (doc : Document) (node : Node) : Prop :=
  ∀ n pointer target, Leads doc node n → n.driver = .reference pointer →
    doc.lookup pointer ≠ .internal .root target

/-- Of the references that the node has at its place, the same are being followed at a path. -/
def Agree (doc : Document) (node : Node) (path : String) (guard guard' : Guard) : Prop :=
  ∀ n pointer place target, SamePlace doc node n → n.driver = .reference pointer →
    doc.lookup pointer = .internal place target →
      ((place.key, path) ∈ guard ↔ (place.key, path) ∈ guard')

section

variable {n : Node} {v : Json} {move : Move} {path : String} {guard guard' : Guard}

theorem Rootless.visit (rootless : Rootless doc node) (visit : Visit doc node value move n v) :
    Rootless doc n :=
  fun m pointer target leads => rootless m pointer target (.head visit.next leads)

theorem Agree.visit (agree : Agree doc node path guard guard') (visit : Visit doc node value move n value)
    (stays : ∀ step, move ≠ .part step) : Agree doc n path guard guard' :=
  fun m pointer place target same => agree m pointer place target (.head ⟨_, _, visit, stays⟩ same)

theorem Agree.cons (agree : Agree doc node path guard guard') (key : String) :
    Agree doc node path ((key, path) :: guard) ((key, path) :: guard') := by
  intro n pointer place target same driver lookup
  rw [List.mem_cons, List.mem_cons, agree n pointer place target same driver lookup]

theorem Confined.agree {step : Step} (confined : Confined path guard) (confined' : Confined path guard')
    (below : step.extend path ≠ rootPath) : Agree doc node (step.extend path) guard guard' :=
  fun _ _ place _ _ _ _ =>
    iff_of_false (confined.fresh below place.key) (confined'.fresh below place.key)

end

/-- A node that does not see the root is checked alike in two documents with the same definitions. The
induction goes over the visits of the check in the second one. -/
theorem check_sealed_iff (shared : body.definitions = doc.definitions) (whole : Json)
    (guard' : Guard) (path : String) (node : Node) (value : Json) :
    ∀ guard, Rootless body node → Plain body node whole → Agree body node path guard guard' →
      Confined path guard → Confined path guard' → (path = rootPath → value = whole) →
      (check doc guard node value path = .ok () ↔ check body guard' node value path = .ok ()) := by
  induction guard', path, node, value using visit_induction body with
  | step guard' path node value ih =>
    intro guard rootless plain agree confined confined' above
    have branch_iff (n : Node) (visit : Visit body node value .branch n value) :
        check doc guard n value path = .ok () ↔ check body guard' n value path = .ok () :=
      ih .branch n value visit not_false guard (rootless.visit visit) (plain.visit visit)
        (agree.visit visit (by simp)) confined confined' above
    have accepts_iff (move : Move) (n : Node) (v : Json) (visit : Visit body node value move n v) :
        Accepts doc guard path move n v ↔ Accepts body guard' path move n v := by
      cases move with
      | branch =>
        obtain ⟨rfl, -⟩ := visit.branch_inv
        rw [accepts_branch, accepts_branch]
        exact branch_iff n visit
      | part step =>
        have below := plain.extend_ne above visit
        rw [accepts_part, accepts_part]
        exact ih (.part step) n v visit not_false guard (rootless.visit visit) (plain.visit visit)
          (confined.agree confined' below) (confined.extend below) (confined'.extend below)
          fun at_root => absurd at_root below
      | reference place =>
        cases visit with
        | reference driver lookup =>
          have alike := agree node _ place n .refl driver lookup
          have visit : Visit body node value (.reference place) n value := .reference driver lookup
          by_cases followed : (place.key, path) ∈ guard'
          · exact iff_of_true (.inl (alike.mpr followed)) (.inl followed)
          · exact or_congr alike <| ih (.reference place) n value visit followed
              ((place.key, path) :: guard) (rootless.visit visit) (plain.visit visit)
              ((agree.visit visit (by simp)).cons place.key) (confined.cons _) (confined'.cons _) above
    cases hn : value.isNull && node.isNullable with
    | true => exact iff_of_true (check_null hn) (check_null hn)
    | false =>
      cases driver : node.driver with
      | oneOf branches =>
        exact check_oneOf_iff driver driver hn hn fun branch mem =>
          branch_iff branch (.oneOf driver mem)
      | reference pointer =>
        rw [check_driven hn driver, check_driven hn driver, driven_reference_eq_ok, driven_reference_eq_ok]
        rcases lookup_cases shared pointer with ⟨-, root⟩ | ⟨found, -⟩
        · exact absurd root (rootless node pointer _ .refl driver)
        · cases lookup : doc.lookup pointer with
          | internal place target =>
            simp only [Asks, found, lookup]
            exact accepts_iff (.reference place) target value (.reference driver (found.trans lookup))
          | external => simp only [Asks, found, lookup]
          | missing => simp only [Asks, found, lookup]
      | _ =>
        have plain_driver : ∀ branches, node.driver ≠ .oneOf branches := by simp [driver]
        rw [check_eq_ok plain_driver, check_eq_ok plain_driver, meets_iff_asks hn driver,
          meets_iff_asks hn driver]
        constructor
        · exact Asks.relax driver (.refl node) (by simp) fun move n v visit =>
            (accepts_iff move n v visit).mp
        · exact Asks.relax driver (.refl node) (by simp) fun move n v visit =>
            (accepts_iff move n v visit).mpr

end MockApi.Validation
