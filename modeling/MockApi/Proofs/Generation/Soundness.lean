import MockApi.Generation.Compiler
import MockApi.Proofs.Generation.Walk
import MockApi.Proofs.Validation.Completeness

/-!
# Generated values pass validation

For a generable document every generation succeeds, whatever is drawn, with a value that its own check
accepts (`compile_passes`). Wherever the walk may be cut off the document has to allow for it: a tower of
objects one step too high is cut off where a member is still required.
-/

namespace MockApi.Generation

open Schema Validation

variable {doc : Document} {node child : Node}

/-- A generation from the root succeeds with a value that the document's check accepts. -/
theorem generate_passes {σ : Type} [Source σ] (plan : Plan σ)
    (generable : Generable plan.document plan.options.maxDepth)
    (noExamples : plan.options.useExamples = false) (source : σ) :
    ∃ value after, generate plan plan.document.root source = (.ok value, after) ∧
      checkBody plan.document (some value) = .ok () := by
  have fresh : Fresh plan.document [] plan.document.root := fun _ _ _ _ _ _ _ _ => nofun
  obtain ⟨value, after, run, fit⟩ :=
    nodeValue_yields generable noExamples .here (Nat.zero_add _) fresh source
  refine ⟨value, after, ?_, check_of_satisfies fit.satisfies [] rootPath⟩
  rw [generate, run]

/-! ### Where a walk can go -/

/-- What a driver says of the children of its node. -/
def Part (doc : Document) (node child : Node) : Driver → Prop
  | .reference pointer => ∃ place, doc.lookup pointer = .internal place child
  | .anyOf branches | .allOf branches => child ∈ branches
  | .typed .object => ∃ name, (name, child) ∈ node.properties
  | .typed .array => node.items = some (.single child) ∨
      ∃ positions, node.items = some (.tuple positions) ∧ child ∈ positions
  | .union _ => True
  | _ => False

theorem Child.part (next : Child doc node child) : Part doc node child node.driver := by
  cases next with
  | reference driver lookup => rw [driver]; exact ⟨_, lookup⟩
  | anyOf driver mem => rw [driver]; exact mem
  | allOf driver mem => rw [driver]; exact mem
  | property takes mem =>
    rcases takes with typed | ⟨kinds, union, -⟩
    · rw [typed]; exact ⟨_, mem⟩
    · rw [union]; trivial
  | single takes items =>
    rcases takes with typed | ⟨kinds, union, -⟩
    · rw [typed]; exact .inl items
    · rw [union]; trivial
  | tuple takes items mem =>
    rcases takes with typed | ⟨kinds, union, -⟩
    · rw [typed]; exact .inr ⟨_, items, mem⟩
    · rw [union]; trivial

/-! ### A catalogue -/

namespace Catalogue

def name : Node :=
  { type := some (.single .string), minLength := some 1, maxLength := some 8, nullable := some true }

def named : Node :=
  { type := some (.single .object), required := ["name"], properties := [("name", name)] }

def toNamed : Node := { reference := some "#/definitions/named" }

def tag : Node := { enumeration := some [.string "new", .string "used"] }

def tags : Node :=
  { type := some (.single .array), items := some (.single tag), minItems := some 1 }

def tagged : Node := { type := some (.single .object), properties := [("tags", tags)] }

def item : Node := { allOf := [toNamed, tagged] }

/-- Items with a name and tags. -/
def document : Document where
  root := item
  definitions := [("named", named)]

theorem lookup_named :
    document.lookup "#/definitions/named" = .internal (.definition "named") named := rfl

/-- The nodes of the document, with their distance from the root. -/
def places : List (Nat × Node) :=
  [(0, item), (1, toNamed), (1, tagged), (2, named), (2, tags), (3, name), (3, tag)]

theorem leads_mem {steps : Nat} {n : Node} (leads : Leads document document.root steps n) :
    (steps, n) ∈ places := by
  induction leads with
  | here => exact List.mem_cons_self
  | @step steps n child leads next ih =>
    simp only [places, List.mem_cons, List.not_mem_nil, or_false, Prod.mk.injEq] at ih
    rcases ih with ⟨rfl, rfl⟩ | ⟨rfl, rfl⟩ | ⟨rfl, rfl⟩ | ⟨rfl, rfl⟩ | ⟨rfl, rfl⟩ | ⟨rfl, rfl⟩ |
      ⟨rfl, rfl⟩
    · have mem : child ∈ [toNamed, tagged] := next.part
      simp only [List.mem_cons, List.not_mem_nil, or_false] at mem
      rcases mem with rfl | rfl <;> simp [places]
    · obtain ⟨place, lookup⟩ : Part document toNamed child (.reference "#/definitions/named") :=
        next.part
      cases lookup_named.symm.trans lookup
      simp [places]
    · obtain ⟨key, mem⟩ : Part document tagged child (.typed .object) := next.part
      cases List.mem_singleton.mp mem
      simp [places]
    · obtain ⟨key, mem⟩ : Part document named child (.typed .object) := next.part
      cases List.mem_singleton.mp mem
      simp [places]
    · rcases (next.part : Part document tags child (.typed .array)) with items | ⟨_, items, _⟩
      · cases items
        simp [places]
      · cases items
    · exact (next.part : Part document name child (.typed .string)).elim
    · exact (next.part : Part document tag child (.enumeration _ _)).elim

theorem behind_toNamed : ObjectBehind document toNamed named :=
  .reference rfl rfl lookup_named (.here rfl rfl)

theorem behind_tagged : ObjectBehind document tagged tagged := .here rfl rfl

theorem eq_of_behind_toNamed {object : Node} (behind : ObjectBehind document toNamed object) :
    object = named := by
  cases behind with
  | here driver => cases driver
  | reference driver present lookup behind =>
    cases driver
    cases lookup_named.symm.trans lookup
    exact (behind.eq_of_typed rfl).2

theorem item_supported : Supported document item := by
  have driver : item.driver = .allOf [toNamed, tagged] := rfl
  refine .allOf driver ?_ ?_
  · intro branch mem
    simp only [List.mem_cons, List.not_mem_nil, or_false] at mem
    rcases mem with rfl | rfl
    · exact ⟨named, behind_toNamed⟩
    · exact ⟨tagged, behind_tagged⟩
  · refine List.pairwise_pair.mpr ?_
    intro object object' behind behind' key mem mem'
    cases eq_of_behind_toNamed behind
    cases (behind'.eq_of_typed rfl).2
    simp only [named, tagged, Table.names, List.map_cons, List.map_nil, List.mem_singleton] at mem mem'
    exact absurd (mem.symm.trans mem') (by decide)

theorem generable : Generable document 2 where
  supported steps n leads := by
    have mem := leads_mem leads
    simp only [places, List.mem_cons, List.not_mem_nil, or_false, Prod.mk.injEq] at mem
    rcases mem with ⟨rfl, rfl⟩ | ⟨rfl, rfl⟩ | ⟨rfl, rfl⟩ | ⟨rfl, rfl⟩ | ⟨rfl, rfl⟩ | ⟨rfl, rfl⟩ |
      ⟨rfl, rfl⟩
    · exact item_supported
    · exact .internal rfl lookup_named
    · exact .typed rfl (.object (by simp [tagged, Table.names]) (by simp [tagged]))
    · exact .typed rfl (.object (by simp [named, Table.names]) (by simp [named, Table.names]))
    · exact .typed rfl (.array (by simp [tags]) (by simp [tags]) (by simp [tags, itemLimit]))
    · exact .typed rfl (.string rfl rfl (by simp [name]) (by simp [name, unholdableLength]))
    · exact .enumeration rfl
  acyclic := acyclic_of_bounded fun steps n leads => by
    have bounded : ∀ place ∈ places, place.1 ≤ 3 := by decide
    exact bounded (steps, n) (leads_mem leads)
  bare n leads := by
    have mem := leads_mem leads
    simp only [places, List.mem_cons, List.not_mem_nil, or_false, Prod.mk.injEq] at mem
    obtain ⟨-, rfl⟩ | ⟨-, rfl⟩ : 3 = 3 ∧ n = name ∨ 3 = 3 ∧ n = tag := by simpa using mem
    · trivial
    · trivial

end Catalogue

/-! ### A tower -/

namespace Tower

/-- Objects that each have the next one inside, with a fixed value at the bottom. -/
def tower : Nat → Node
  | 0 => { constant := some (.ofNat 1) }
  | height + 1 =>
    { type := some (.single .object), required := ["in"], properties := [("in", tower height)] }

def document (height : Nat) : Document := { root := tower height }

/-- What is left of a tower that is cut off: the last object lacks its member. -/
def stump : Nat → Json
  | 0 => .object []
  | room + 1 => .object [("in", stump room)]

variable {height steps : Nat} {n : Node}

theorem driver_succ (height : Nat) : (tower (height + 1)).driver = .typed .object := rfl

theorem leads_tower (leads : Leads doc (tower height) steps n) :
    steps ≤ height ∧ n = tower (height - steps) := by
  induction leads with
  | here => exact ⟨Nat.zero_le _, rfl⟩
  | @step steps n child leads next ih =>
    obtain ⟨within, rfl⟩ := ih
    cases left : height - steps with
    | zero =>
      rw [left] at next
      exact (next.part : Part doc (tower 0) child (.constant _)).elim
    | succ rest =>
      rw [left] at next
      obtain ⟨name, mem⟩ : Part doc (tower (rest + 1)) child (.typed .object) := next.part
      cases List.mem_singleton.mp mem
      refine ⟨by omega, ?_⟩
      rw [Nat.sub_add_eq, left]
      rfl

theorem supported : Supported doc (tower height) := by
  cases height with
  | zero => exact .constant rfl
  | succ height =>
    exact .typed (driver_succ height) (.object (by simp [tower, Table.names]) (by simp [tower, Table.names]))

/-- A tower that is higher than the depth is cut off. -/
theorem nodeValue_tower {σ : Type} [Source σ] {plan : Plan σ}
    (noExamples : plan.options.useExamples = false) (height room : Nat) (walk : Walk σ) :
    nodeValue plan room (tower (height + room + 1)) walk = (.ok (stump room), walk) := by
  induction room generalizing walk with
  | zero => rfl
  | succ room ih =>
    have none_given (n : Node) : exampleOf plan n = none := by
      rw [exampleOf, noExamples]
      rfl
    rw [nodeValue, none_given]
    have inside : memberValues plan (nodeValue plan room) (tower (height + room + 2))
        [("in", tower (height + room + 1))] walk = (.ok [("in", stump room)], walk) := by
      unfold memberValues
      exact Walking.bind_run rfl (Walking.bind_run (ih walk) (Walking.bind_run rfl rfl))
    have present : drawsNull (tower (height + room + 2)) walk = (.ok false, walk) := rfl
    exact Walking.bind_run present (Walking.bind_run inside rfl)

theorem generate_tower {σ : Type} [Source σ] (plan : Plan σ)
    (noExamples : plan.options.useExamples = false) (height : Nat) (source : σ) :
    generate plan (tower (height + plan.options.maxDepth + 2)) source =
      (.ok (stump (plan.options.maxDepth + 1)), source) := by
  have run := nodeValue_tower noExamples height (plan.options.maxDepth + 1) ⟨source, []⟩
  rw [← Nat.add_assoc] at run
  rw [generate, run]

/-- What is left of it is rejected. -/
theorem check_tower {guard : Guard} {path : String} (height room : Nat) :
    check doc guard (tower (height + room + 1)) (stump room) path ≠ .ok () := by
  intro accepted
  have present (value : Json) (height : Nat) : (value.isNull && (tower height).isNullable) = false := by
    cases height <;> simp [tower, Node.isNullable]
  induction room generalizing path with
  | zero =>
    rw [check_typed (present _ _) (driver_succ _), checkKind_eq_ok] at accepted
    cases accepted with
    | object required => exact absurd (required "in" List.mem_cons_self) (by decide)
  | succ room ih =>
    rw [check_typed (present _ _) (driver_succ _), checkKind_eq_ok] at accepted
    cases accepted with
    | object required properties =>
      exact ih (accepts_part.mp (properties "in" _ List.mem_cons_self _ rfl))

end Tower

/-- Whatever a compiler draws, and whatever is drawn from any source, a generable document gets a value
that its own check accepts. -/
theorem compile_passes (c : Compiler) (now : Instant) (document : Document)
    (generable : Generable document c.options.maxDepth) (noExamples : c.options.useExamples = false) :
    (∃ value, (c.compile now document).2 = .ok value ∧
      checkBody document (some value) = .ok ()) ∧
    ∀ (σ : Type) [Source σ] (setting : Setting σ) (source : σ), ∃ value after,
      generate ⟨document, c.options, setting⟩ document.root source = (.ok value, after) ∧
        checkBody document (some value) = .ok () := by
  refine ⟨?_, fun σ _ setting source => generate_passes _ generable noExamples source⟩
  obtain ⟨value, after, run, passes⟩ :=
    generate_passes (c.plan now document) generable noExamples c.child.2
  exact ⟨value, congrArg Prod.fst run, passes⟩

/-- A catalogue is two steps deep, apart from the bare nodes at its ends. -/
theorem compile_passes_catalogue :
    let c := Compiler.ofConfig { maxDepth := 2 } {} 0
    Generable Catalogue.document c.options.maxDepth ∧ c.options.useExamples = false ∧
      ∃ value, (c.compile ⟨0⟩ Catalogue.document).2 = .ok value ∧
        checkBody Catalogue.document (some value) = .ok () :=
  ⟨Catalogue.generable, rfl, (compile_passes (Compiler.ofConfig { maxDepth := 2 } {} 0) ⟨0⟩
    Catalogue.document Catalogue.generable rfl).1⟩

/-- A tower of three objects says nothing that is not supported and comes back to none of them, and with
a depth of one its value is rejected. -/
theorem compile_tower_rejected :
    let c := Compiler.ofConfig { maxDepth := 1 } {} 0
    (∀ steps n, Leads (Tower.document 3) (Tower.tower 3) steps n → Supported (Tower.document 3) n) ∧
      (∀ steps back n, Leads (Tower.document 3) (Tower.tower 3) steps n →
        ¬ Leads (Tower.document 3) n (back + 1) n) ∧
      c.options.useExamples = false ∧
      (c.compile ⟨0⟩ (Tower.document 3)).2 = .ok (.object [("in", .object [("in", .object [])])]) ∧
      checkBody (Tower.document 3) (some (.object [("in", .object [("in", .object [])])])) ≠
        .ok () := by
  refine ⟨?_, ?_, rfl, ?_, Tower.check_tower 0 2⟩
  · intro steps n leads
    obtain ⟨-, rfl⟩ := Tower.leads_tower leads
    exact Tower.supported
  · exact acyclic_of_bounded fun steps n leads => (Tower.leads_tower leads).1
  · let c := Compiler.ofConfig { maxDepth := 1 } {} 0
    exact congrArg Prod.fst
      (Tower.generate_tower (c.plan ⟨0⟩ (Tower.document 3)) rfl 0 c.child.2)

end MockApi.Generation
