import MockApi.Proofs.Schema.RoundTrip
import MockApi.Proofs.Validation.Guard
import Mathlib.Data.List.MinMax
import Mathlib.Order.Nat

/-!
# What a node is made of

A node has components, which have components in turn. A `fold` goes through all of them from the leaves up,
and from it come how deep a node is nested and how deep its literals are. A document is as deep as the deepest
of its nodes.
-/

namespace MockApi.Schema

/-- The values that are written in the keywords: a fixed one, a list of them, a default, and examples if
these count. -/
def Keywords.literals (k : Keywords) (withExamples : Bool) : List Json :=
  k.constant.toList ++ k.enumeration.getD [] ++ k.default.toList ++
    if withExamples then k.examples.getD [] else []

namespace Node

/-- The nodes that a node is made of: of its properties, its items and its compositions. Its definitions are
not among them. -/
def components (node : Node) : List Node :=
  node.properties.map (·.2) ++ (node.items.map Items.nodes).getD [] ++ node.oneOf ++ node.anyOf ++
    node.allOf

variable {α : Type}

mutual

/-- Goes through the components of a node from the leaves up. -/
def fold (combine : Keywords → List α → α) (node : Node) : α :=
  match node with
  | ⟨keywords, properties, items, oneOf, anyOf, allOf, _, _⟩ =>
    combine keywords (foldTable combine properties ++ foldItems combine items ++
      foldList combine oneOf ++ foldList combine anyOf ++ foldList combine allOf)

def foldTable (combine : Keywords → List α → α) : List (String × Node) → List α
  | [] => []
  | (_, node) :: rest => fold combine node :: foldTable combine rest

def foldList (combine : Keywords → List α → α) : List Node → List α
  | [] => []
  | node :: rest => fold combine node :: foldList combine rest

def foldItems (combine : Keywords → List α → α) : Option (Items Node) → List α
  | none => []
  | some (.tuple positions) => foldList combine positions
  | some (.single item) => [fold combine item]

end

variable {combine : Keywords → List α → α}

theorem foldTable_eq_map (table : List (String × Node)) :
    foldTable combine table = (table.map (·.2)).map (fold combine) := by
  induction table with
  | nil => rfl
  | cons entry rest ih => simp [foldTable, ih]

theorem foldList_eq_map (nodes : List Node) : foldList combine nodes = nodes.map (fold combine) := by
  induction nodes with
  | nil => rfl
  | cons node rest ih => simp [foldList, ih]

theorem foldItems_eq_map (items : Option (Items Node)) :
    foldItems combine items = ((items.map Items.nodes).getD []).map (fold combine) := by
  rcases items with _ | positions | item
  · rfl
  · exact foldList_eq_map positions
  · rfl

/-- A fold is that of the components put together. -/
theorem fold_eq (node : Node) :
    node.fold combine = combine node.toKeywords (node.components.map (fold combine)) := by
  obtain ⟨keywords, properties, items, oneOf, anyOf, allOf, definitions, defs⟩ := node
  simp only [fold, foldTable_eq_map, foldItems_eq_map, foldList_eq_map, components, List.map_append]

/-! ### Which nodes are components -/

variable {node component : Node}

theorem branch_mem_components
    (mem : component ∈ node.oneOf ∨ component ∈ node.anyOf ∨ component ∈ node.allOf) :
    component ∈ node.components := by
  simp only [components, List.mem_append]
  rcases mem with oneOf | anyOf | allOf
  · exact .inl (.inl (.inr oneOf))
  · exact .inl (.inr anyOf)
  · exact .inr allOf

theorem property_mem_components {name : String} (mem : (name, component) ∈ node.properties) :
    component ∈ node.components := by
  have listed : component ∈ node.properties.map (·.2) := List.mem_map_of_mem mem
  simp [components, listed]

theorem items_mem_components {items : Items Node} (stated : node.items = some items)
    (mem : component ∈ items.nodes) : component ∈ node.components := by
  simp [components, stated, mem]

/-! ### Which values are literals -/

section

variable {withExamples : Bool} {value : Json}

theorem constant_mem_literals (driver : node.driver = .constant value) :
    value ∈ node.toKeywords.literals withExamples := by
  have constant : node.constant = some value := by
    unfold Node.driver Node.typeDriver at driver
    repeat' split at driver
    all_goals simp_all
  simp [Keywords.literals, constant]

theorem enumeration_mem_literals {first : Json} {rest : List Json}
    (driver : node.driver = .enumeration first rest) (mem : value ∈ first :: rest) :
    value ∈ node.toKeywords.literals withExamples := by
  have enumeration : node.enumeration = some (first :: rest) := by
    unfold Node.driver Node.typeDriver at driver
    repeat' split at driver
    all_goals simp_all
  have listed : value ∈ node.enumeration.getD [] := by rw [enumeration]; exact mem
  simp only [Keywords.literals, List.mem_append]
  exact .inl (.inl (.inr listed))

theorem default_mem_literals (default : node.default = some value) :
    value ∈ node.toKeywords.literals withExamples := by
  simp [Keywords.literals, default]

theorem example_mem_literals {examples : List Json} (stated : node.examples = some examples)
    (mem : value ∈ examples) : value ∈ node.toKeywords.literals true := by
  simp [Keywords.literals, stated, mem]

end

/-! ### Depth -/

/-- How many nodes lie one inside the other. -/
def nesting (node : Node) : Nat := node.fold fun _ components => components.foldr max 0 + 1

/-- The depth of the deepest value that is written in a node or in its components. -/
def literalNesting (withExamples : Bool) (node : Node) : Nat :=
  node.fold fun keywords components =>
    (components ++ (keywords.literals withExamples).map Json.nesting).foldr max 0

theorem foldr_max_le_iff {xs : List Nat} {limit : Nat} :
    xs.foldr max 0 ≤ limit ↔ ∀ x ∈ xs, x ≤ limit :=
  ⟨fun le _ mem => (List.le_max_of_le mem (Nat.le_refl _)).trans le, List.max_le_of_forall_le xs limit⟩

theorem nesting_lt_of_mem_components (mem : component ∈ node.components) :
    component.nesting < node.nesting := by
  have whole : node.nesting = (node.components.map nesting).foldr max 0 + 1 := fold_eq node
  rw [whole, Nat.lt_succ_iff]
  exact foldr_max_le_iff.mp (Nat.le_refl _) _ (List.mem_map_of_mem mem)

theorem nesting_pos (node : Node) : 0 < node.nesting := by
  have whole : node.nesting = (node.components.map nesting).foldr max 0 + 1 := fold_eq node
  rw [whole]
  exact Nat.succ_pos _

theorem literalNesting_le_iff {withExamples : Bool} {limit : Nat} :
    node.literalNesting withExamples ≤ limit ↔
      (∀ component ∈ node.components, component.literalNesting withExamples ≤ limit) ∧
        ∀ literal ∈ node.toKeywords.literals withExamples, literal.nesting ≤ limit := by
  have whole : node.literalNesting withExamples = (node.components.map (literalNesting withExamples) ++
      (node.toKeywords.literals withExamples).map Json.nesting).foldr max 0 := fold_eq node
  rw [whole, foldr_max_le_iff, List.forall_mem_append, List.forall_mem_map, List.forall_mem_map]

end Node

namespace Document

variable {measure : Node → Nat} {doc : Document} {node : Node} {limit : Nat}

/-- The greatest measure of a node, of the root and of the definitions. -/
def greatest (doc : Document) (measure : Node → Nat) (node : Node) : Nat :=
  (measure node :: measure doc.root :: doc.definitions.map (measure ·.2)).foldr max 0

theorem greatest_le_iff : doc.greatest measure node ≤ limit ↔
    measure node ≤ limit ∧ measure doc.root ≤ limit ∧
      ∀ entry ∈ doc.definitions, measure entry.2 ≤ limit := by
  rw [greatest, Node.foldr_max_le_iff, List.forall_mem_cons, List.forall_mem_cons, List.forall_mem_map]

theorem le_greatest (doc : Document) (measure : Node → Nat) (node : Node) :
    measure node ≤ doc.greatest measure node :=
  (greatest_le_iff.mp (Nat.le_refl _)).1

/-- Going to a node of no greater measure the greatest does not grow. -/
theorem greatest_mono {other : Node} (le : measure other ≤ measure node) :
    doc.greatest measure other ≤ doc.greatest measure node := by
  obtain ⟨here, root, definitions⟩ := greatest_le_iff.mp (Nat.le_refl (doc.greatest measure node))
  exact greatest_le_iff.mpr ⟨le.trans here, root, definitions⟩

/-- A reference leads to a node that was counted. -/
theorem greatest_of_lookup {pointer : String} {place : Place} {target : Node}
    (lookup : doc.lookup pointer = .internal place target) :
    doc.greatest measure target ≤ doc.greatest measure node := by
  obtain ⟨here, root, definitions⟩ := greatest_le_iff.mp (Nat.le_refl (doc.greatest measure node))
  have at_place := Validation.nodeAt?_of_lookup lookup
  refine greatest_le_iff.mpr ⟨?_, root, definitions⟩
  cases place with
  | root =>
    cases at_place
    exact root
  | definition name => exact definitions _ (Validation.get?_mem at_place)

/-- How many nodes lie one inside the other, in a node or in the document. -/
def nesting (doc : Document) (node : Node) : Nat := doc.greatest Node.nesting node

/-- The depth of the deepest value that is written in a node or in the document. -/
def literalNesting (doc : Document) (withExamples : Bool) (node : Node) : Nat :=
  doc.greatest (Node.literalNesting withExamples) node

end Document

end MockApi.Schema
