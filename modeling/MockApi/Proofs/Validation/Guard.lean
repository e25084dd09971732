import MockApi.Proofs.Validation.Unfolding
import MockApi.Validation.Path

/-!
# A reference that is met again

A reference that is met again at the same path is taken to hold. That is right where key and path name
one node and one part of the value, since the earlier check looks at the same thing. They do, unless a
member `$` of the whole value or a definition `#` is there (`satisfies_of_checkNode`).
-/

namespace MockApi.Validation

/-! ### Texts of paths -/

theorem renderPath_append (steps more : List Step) :
    renderPath (steps ++ more) = more.foldl Step.extend (renderPath steps) :=
  List.foldl_append

/-- The only step from the whole value to a part with the same path. -/
def rootMember : Step := .member rootPath

theorem ne_rootPath_of_mem {path : String} {c : Char} (mem : c ∈ path.toList) (h : c ≠ '$') :
    path ≠ rootPath := by
  rintro rfl
  simp [rootPath, h] at mem

theorem indexPath_ne_rootPath (path : String) (index : Nat) : indexPath path index ≠ rootPath :=
  ne_rootPath_of_mem (c := '[') (by simp [indexPath]) (by decide)

theorem extend_ne_rootPath {path : String} (h : path ≠ rootPath) (step : Step) :
    step.extend path ≠ rootPath := by
  cases step with
  | member name =>
    exact ne_rootPath_of_mem (c := '.') (by simp [Step.extend, childPath, h]) (by decide)
  | element index => exact indexPath_ne_rootPath path index

theorem extend_rootPath_ne {step : Step} (h : step ≠ rootMember) :
    step.extend rootPath ≠ rootPath := by
  cases step with
  | member name =>
    intro same
    exact h (congrArg Step.member (by simpa [Step.extend, childPath] using same))
  | element index => exact indexPath_ne_rootPath rootPath index

theorem length_lt_extend {path : String} (h : path ≠ rootPath) (step : Step) :
    path.length < (step.extend path).length := by
  cases step with
  | member name =>
    have point : ".".length = 1 := rfl
    simp only [Step.extend, childPath, h, if_false, String.length_append]
    omega
  | element index =>
    have bracket : "[".length = 1 := rfl
    simp only [Step.extend, indexPath, String.length_append]
    omega

theorem foldl_extend {path : String} (h : path ≠ rootPath) (steps : List Step) :
    steps.foldl Step.extend path ≠ rootPath ∧
      path.length + steps.length ≤ (steps.foldl Step.extend path).length := by
  induction steps generalizing path with
  | nil => exact ⟨h, Nat.le_refl _⟩
  | cons step rest ih =>
    obtain ⟨different, long⟩ := ih (extend_ne_rootPath h step)
    have longer := length_lt_extend h step
    refine ⟨different, ?_⟩
    rw [List.foldl_cons, List.length_cons]
    omega

/-- A part below another one has a longer path, unless the way down starts with the member `$`. -/
theorem eq_of_renderPath_eq {steps more : List Step}
    (start : ∀ rest, steps ++ more ≠ rootMember :: rest)
    (same : renderPath (steps ++ more) = renderPath steps) : more = [] := by
  rw [renderPath_append] at same
  cases steps with
  | nil =>
    cases more with
    | nil => rfl
    | cons first rest =>
      have first_ne : first ≠ rootMember := fun h => start rest (by rw [h]; rfl)
      exact absurd same (foldl_extend (extend_rootPath_ne first_ne) rest).1
  | cons first rest =>
    have first_ne : first ≠ rootMember := fun h => start (rest ++ more) (by rw [h]; rfl)
    have below : renderPath (first :: rest) ≠ rootPath :=
      (foldl_extend (extend_rootPath_ne first_ne) rest).1
    have long := (foldl_extend below more).2
    rw [same] at long
    exact List.length_eq_zero_iff.mp (by omega)

open Schema

/-! ### What a document is made of -/

/-- The nodes that a check of a node against a document can meet. -/
inductive Occurs (doc : Document) (node : Node) : Node → Prop
  | self : Occurs doc node node
  | root : Occurs doc node doc.root
  | definition {name : String} {n : Node} (mem : (name, n) ∈ doc.definitions) : Occurs doc node n
  | branch {n branch : Node} (occurs : Occurs doc node n)
      (mem : branch ∈ n.oneOf ∨ branch ∈ n.anyOf ∨ branch ∈ n.allOf) : Occurs doc node branch
  | property {n property : Node} {name : String} (occurs : Occurs doc node n)
      (mem : (name, property) ∈ n.properties) : Occurs doc node property
  | single {n item : Node} (occurs : Occurs doc node n) (items : n.items = some (.single item)) :
      Occurs doc node item
  | tuple {n item : Node} {positions : List Node} (occurs : Occurs doc node n)
      (items : n.items = some (.tuple positions)) (mem : item ∈ positions) : Occurs doc node item

/-- No node has `oneOf`. -/
def OneOfFree (doc : Document) (node : Node) : Prop := ∀ n, Occurs doc node n → n.oneOf = []

/-- The names that may stand for properties, for definitions, and for members of the whole value. -/
structure Vocabulary where
  property : String → Prop
  definition : String → Prop
  member : String → Prop

/-- A check that uses no other names. -/
structure Vocabulary.Covers (names : Vocabulary) (doc : Document) (node : Node) (value : Json) :
    Prop where
  property : ∀ n, Occurs doc node n → ∀ entry ∈ n.properties, names.property entry.1
  definition : ∀ entry ∈ doc.definitions, names.definition entry.1
  member : ∀ name member, value.member? name = some member → names.member name

/-- The node at a place. -/
def nodeAt? (doc : Document) : Place → Option Node
  | .root => some doc.root
  | .definition name => Table.get? doc.definitions name

variable {doc : Document} {node n : Node} {value v : Json}

theorem nodeAt?_of_lookup {pointer : String} {place : Place} {target : Node}
    (lookup : doc.lookup pointer = .internal place target) : nodeAt? doc place = some target := by
  unfold Document.lookup at lookup
  split at lookup
  · cases lookup
  split at lookup
  · cases lookup; rfl
  split at lookup
  · cases lookup
  split at lookup
  · rename_i name target' found
    cases lookup
    exact found
  · cases lookup

theorem occurs_of_nodeAt? {place : Place} (at_place : nodeAt? doc place = some n) :
    Occurs doc node n := by
  cases place with
  | root => cases at_place; exact .root
  | definition name => exact .definition (get?_mem at_place)

theorem Occurs.part {move : Move} {n' : Node} {v' : Json} (occurs : Occurs doc node n)
    (part : Part doc n v move n' v') : Occurs doc node n' := by
  cases part with
  | reference driver lookup => exact occurs_of_nodeAt? (nodeAt?_of_lookup lookup)
  | allOf driver mem => exact .branch occurs (.inr (.inr (Node.allOf_of_driver driver ▸ mem)))
  | anyOf driver mem => exact .branch occurs (.inr (.inl (Node.anyOf_of_driver driver ▸ mem)))
  | property mem found => exact .property occurs mem
  | single items found => exact .single occurs items
  | tuple items position found => exact .tuple occurs items (List.mem_of_getElem? position)

theorem OneOfFree.driver_ne (plain : OneOfFree doc node) (occurs : Occurs doc node n)
    (branches : List Node) : n.driver ≠ .oneOf branches := by
  intro driver
  have empty := plain n occurs
  rw [Node.oneOf_of_driver driver] at empty
  subst empty
  unfold Node.driver Node.typeDriver at driver
  repeat' split at driver
  all_goals simp_all

/-! ### The way down -/

/-- The step that a move takes into the value. -/
def Move.steps : Move → List Step
  | .part step => [step]
  | _ => []

theorem Move.renderPath_steps (move : Move) (steps : List Step) :
    renderPath (steps ++ move.steps) = move.path (renderPath steps) := by
  rw [renderPath_append]
  cases move <;> rfl

theorem Part.follow_steps {move : Move} {n' : Node} {v' : Json} (part : Part doc n v move n' v') :
    follow move.steps v = some v' := by
  cases part with
  | reference => rfl
  | allOf => rfl
  | anyOf => rfl
  | property mem found => simpa [Move.steps, follow, Step.follow] using found
  | single items found => simpa [Move.steps, follow, Step.follow] using found
  | tuple items position found => simpa [Move.steps, follow, Step.follow] using found

theorem follow_append (steps more : List Step) (v : Json) :
    follow (steps ++ more) v = (follow steps v).bind (follow more) :=
  List.foldlM_append

/-- The checks on the way from the whole check down to a part, each of them accepted: the references that
are being followed there, the steps into the value, and what is checked. -/
inductive Trail (doc : Document) (node : Node) (value : Json) : Guard → List Step → Node → Json → Prop
  | start (accepted : checkNode doc node value = .ok ()) : Trail doc node value [] [] node value
  | move {guard : Guard} {steps : List Step} {n n' : Node} {v v' : Json} {move : Move}
      (trail : Trail doc node value guard steps n v) (part : Part doc n v move n' v')
      (accepted : check doc (move.guard guard (renderPath steps)) n' v'
        (renderPath (steps ++ move.steps)) = .ok ()) :
      Trail doc node value (move.guard guard (renderPath steps)) (steps ++ move.steps) n' v'

namespace Trail

variable {guard : Guard} {steps : List Step}

theorem accepted (trail : Trail doc node value guard steps n v) :
    check doc guard n v (renderPath steps) = .ok () := by
  cases trail with
  | start accepted => exact accepted
  | move trail part accepted => exact accepted

theorem occurs (trail : Trail doc node value guard steps n v) : Occurs doc node n := by
  induction trail with
  | start => exact .self
  | move trail part accepted ih => exact ih.part part

theorem reaches (trail : Trail doc node value guard steps n v) : follow steps value = some v := by
  induction trail with
  | start => rfl
  | move trail part accepted ih =>
    rw [follow_append, ih]
    exact part.follow_steps

/-- A step to a member is a step along a property. -/
theorem property_mem {name : String} (trail : Trail doc node value guard steps n v)
    (mem : .member name ∈ steps) : ∃ n' entry, Occurs doc node n' ∧ entry ∈ n'.properties ∧
      entry.1 = name := by
  induction trail with
  | start => cases mem
  | move trail part accepted ih =>
    rcases List.mem_append.mp mem with before | last
    · exact ih before
    · cases part with
      | property found =>
        cases List.mem_singleton.mp last
        exact ⟨_, _, trail.occurs, found, rfl⟩
      | single => cases List.mem_singleton.mp last
      | tuple => cases List.mem_singleton.mp last
      | _ => cases last

/-- Every reference that is being followed was met on the way, at a part above, and accepted there. -/
theorem followed (trail : Trail doc node value guard steps n v) {key path : String}
    (mem : (key, path) ∈ guard) : ∃ place target guard' above below v',
      place.key = key ∧ nodeAt? doc place = some target ∧ steps = above ++ below ∧
      renderPath above = path ∧ Trail doc node value guard' above target v' := by
  induction trail with
  | start => cases mem
  | @move guard steps n n' v v' move trail part accepted ih =>
    have earlier (mem : (key, path) ∈ guard) : ∃ place target guard' above below v',
        place.key = key ∧ nodeAt? doc place = some target ∧ steps ++ move.steps = above ++ below ∧
        renderPath above = path ∧ Trail doc node value guard' above target v' := by
      obtain ⟨place, target, guard', above, below, w, same, at_place, rfl, path, trail⟩ := ih mem
      exact ⟨place, target, guard', above, below ++ move.steps, w, same, at_place,
        List.append_assoc _ _ _, path, trail⟩
    cases move with
    | branch => exact earlier mem
    | part step => exact earlier mem
    | reference place =>
      rcases List.mem_cons.mp mem with here | before
      · obtain ⟨rfl, rfl⟩ := Prod.mk.inj here
        cases part with
        | reference driver lookup =>
          exact ⟨place, n', _, steps, [], v, rfl, nodeAt?_of_lookup lookup, by simp [Move.steps],
            rfl, by simpa [Move.steps] using Trail.move trail (.reference driver lookup) accepted⟩
      · exact earlier before

end Trail

/-! ### Soundness -/

theorem Vocabulary.Covers.rootKey_not_mem {names : Vocabulary} (covers : names.Covers doc node value)
    (keys : ¬names.definition rootKey) : rootKey ∉ Table.names doc.definitions := by
  intro mem
  obtain ⟨entry, listed, same⟩ := List.mem_map.mp mem
  exact keys (same ▸ covers.definition entry listed)

/-- Places with one key are one place, if no definition has the key of the root. -/
theorem place_eq_of_key (keys : rootKey ∉ Table.names doc.definitions) {place place' : Place}
    {target target' : Node} (at_place : nodeAt? doc place = some target)
    (at_place' : nodeAt? doc place' = some target') (same : place.key = place'.key) :
    place = place' := by
  have named {name : String} {t : Node} (found : nodeAt? doc (.definition name) = some t) :
      name ≠ rootKey := fun root => keys (root ▸ List.mem_map_of_mem (get?_mem found))
  cases place with
  | root =>
    cases place' with
    | root => rfl
    | definition name => exact absurd same.symm (named at_place')
  | definition name =>
    cases place' with
    | root => exact absurd same (named at_place)
    | definition name' => exact congrArg Place.definition same

/-- Places with one key hold one node, if no definition has the key of the root. -/
theorem nodeAt?_eq_of_key (keys : rootKey ∉ Table.names doc.definitions) {place place' : Place}
    {target target' : Node} (at_place : nodeAt? doc place = some target)
    (at_place' : nodeAt? doc place' = some target') (same : place'.key = place.key) :
    target' = target := by
  obtain rfl := place_eq_of_key keys at_place' at_place same
  exact Option.some.inj (at_place'.symm.trans at_place)

/-- The way down does not start with the member `$`, unless a property and a member have that name. -/
theorem Trail.ne_rootMember {names : Vocabulary} {guard : Guard} {steps : List Step}
    (trail : Trail doc node value guard steps n v) (covers : names.Covers doc node value)
    (members : ¬(names.property rootPath ∧ names.member rootPath)) (rest : List Step) :
    steps ≠ rootMember :: rest := by
  rintro rfl
  obtain ⟨n', entry, occurs, mem, name⟩ := trail.property_mem List.mem_cons_self
  have reached : (rootMember.follow value).bind (follow rest) = some v := trail.reaches
  obtain ⟨member, found, -⟩ := Option.bind_eq_some_iff.mp reached
  refine members ⟨name ▸ covers.property n' occurs entry mem, covers.member rootPath member ?_⟩
  cases value with
  | object members => exact found
  | _ => cases found

/-- What a check accepts satisfies the node, if neither name is there. A reference that is met again
names the same node and the same part as before, so that the earlier check stands for it. -/
theorem satisfies_of_checkNode {names : Vocabulary} (plain : OneOfFree doc node)
    (covers : names.Covers doc node value)
    (members : ¬(names.property rootPath ∧ names.member rootPath))
    (keys : ¬names.definition rootKey) (accepted : checkNode doc node value = .ok ()) :
    Satisfies doc node value := by
  have closed (n : Node) (v : Json) (on_trail : ∃ guard steps, Trail doc node value guard steps n v) :
      Meets doc (fun _ n v => ∃ guard steps, Trail doc node value guard steps n v) n v := by
    obtain ⟨guard, steps, trail⟩ := on_trail
    have meets := (check_eq_ok (plain.driver_ne trail.occurs)).mp trail.accepted
    refine meets.mono fun move n' v' part accepts => ?_
    rcases accepts with followed | accepted'
    · cases part with
      | @reference _ _ place _ driver lookup =>
        obtain ⟨place', target', guard', above, below, v', same, at_place', rfl, path, trail'⟩ :=
          trail.followed followed
        have here : below = [] :=
          eq_of_renderPath_eq (trail.ne_rootMember covers members) path.symm
        subst here
        have value_eq : v' = v := by
          have reached := trail'.reaches
          rw [← List.append_nil above, trail.reaches] at reached
          exact (Option.some.inj reached).symm
        have target_eq := nodeAt?_eq_of_key (covers.rootKey_not_mem keys) (nodeAt?_of_lookup lookup)
            at_place' same
        rw [← target_eq, ← value_eq]
        exact ⟨guard', above, trail'⟩
      | _ => exact followed.elim
    · rw [← move.renderPath_steps] at accepted'
      exact ⟨_, _, trail.move part accepted'⟩
  exact Satisfies.of_closed closed ⟨[], [], .start accepted⟩

end MockApi.Validation
