import MockApi.Proofs.Json.Table
import MockApi.Proofs.Validation.Collapse
import Mathlib.Data.List.Perm.Subperm

/-!
# References that are followed from the root

The root of a document may be a reference, to a node that is one again. Following them is bounded by the
number of definitions, and that is enough: the places on the way to an end are all different
(`Leads.nodup`). So the end of the chain is found if there is one, and a node of the chain otherwise
(`resolvedRoot_on_chain`).
-/

namespace MockApi.Schema

open Validation (RootChain nodeAt? nodeAt?_of_lookup driver_of_reference)

variable {doc : Document} {place : Place} {node last : Node} {trail : List Place}

/-- No further node of the document is referred to. -/
def Ends (doc : Document) (node : Node) : Prop :=
  ∀ pointer, node.reference = some pointer →
    doc.lookup pointer = .external ∨ doc.lookup pointer = .missing

theorem Ends.not_internal {pointer : String} {target : Node} (ends : Ends doc node)
    (reference : node.reference = some pointer) : doc.lookup pointer ≠ .internal place target := by
  intro lookup
  rcases ends pointer reference with other | other <;> rw [lookup] at other <;> cases other

/-- The references from a node lead to an end, past the places of the trail. -/
inductive Leads (doc : Document) : Node → List Place → Node → Prop
  | here {node : Node} (ends : Ends doc node) : Leads doc node [] node
  | on {node target last : Node} {pointer : String} {next : Place} {trail : List Place}
      (reference : node.reference = some pointer)
      (lookup : doc.lookup pointer = .internal next target) (rest : Leads doc target trail last) :
      Leads doc node (next :: trail) last

namespace Leads

/-- There is one way to go. -/
theorem unique {trail' : List Place} {last' : Node} (leads : Leads doc node trail last)
    (leads' : Leads doc node trail' last') : trail = trail' ∧ last = last' := by
  induction leads generalizing trail' with
  | here ends =>
    cases leads' with
    | here => exact ⟨rfl, rfl⟩
    | on reference lookup => exact absurd lookup (ends.not_internal reference)
  | on reference lookup rest ih =>
    cases leads' with
    | here ends => exact absurd lookup (ends.not_internal reference)
    | on reference' lookup' rest' =>
      cases reference.symm.trans reference'
      cases lookup.symm.trans lookup'
      obtain ⟨rfl, rfl⟩ := ih rest'
      exact ⟨rfl, rfl⟩

/-- From each place of the trail the rest of the way is shorter. -/
theorem behind (leads : Leads doc node trail last) (mem : place ∈ trail) :
    ∃ node' trail', nodeAt? doc place = some node' ∧ Leads doc node' trail' last ∧
      trail'.length < trail.length := by
  induction leads with
  | here => cases mem
  | @on node target last pointer next trail reference lookup rest ih =>
    rcases List.mem_cons.mp mem with rfl | mem
    · exact ⟨target, trail, nodeAt?_of_lookup lookup, rest, Nat.lt_succ_self _⟩
    · obtain ⟨node', trail', at_place, leads, shorter⟩ := ih mem
      exact ⟨node', trail', at_place, leads, Nat.lt_succ_of_lt shorter⟩

/-- A place is not come to again on the way from it to an end. -/
theorem not_mem (leads : Leads doc node trail last) (at_place : nodeAt? doc place = some node) :
    place ∉ trail := by
  intro mem
  obtain ⟨node', trail', at_place', leads', shorter⟩ := leads.behind mem
  cases at_place.symm.trans at_place'
  obtain ⟨rfl, -⟩ := leads.unique leads'
  exact Nat.lt_irrefl _ shorter

theorem nodup (leads : Leads doc node trail last) : trail.Nodup := by
  induction leads with
  | here => exact List.nodup_nil
  | on reference lookup rest ih =>
    exact List.nodup_cons.mpr ⟨rest.not_mem (nodeAt?_of_lookup lookup), ih⟩

/-- From the root, the way is no longer than there are definitions. -/
theorem length_le (leads : Leads doc doc.root trail last) : trail.length ≤ doc.definitions.length := by
  have places : trail ⊆ (Table.names doc.definitions).map .definition := by
    intro place mem
    cases place with
    | root => exact absurd mem (leads.not_mem rfl)
    | definition name =>
      obtain ⟨node, -, at_place, -⟩ := leads.behind mem
      exact List.mem_map_of_mem (Table.mem_names_of_get? at_place)
  have bound := (List.subperm_of_subset leads.nodup places).length_le
  rwa [List.length_map, Table.names, List.length_map] at bound

/-- Following references finds the end if it may take as many steps as there are. -/
theorem followFrom_eq {fuel : Nat} (leads : Leads doc node trail last)
    (at_place : nodeAt? doc place = some node) (enough : trail.length ≤ fuel) :
    doc.followFrom place node fuel = last := by
  induction leads generalizing place fuel with
  | @here node ends =>
    cases fuel with
    | zero => rfl
    | succ fuel =>
      rw [Document.followFrom]
      split
      · rename_i next target found
        obtain ⟨pointer, reference, lookup⟩ := Option.map_eq_some_iff.mp found
        exact absurd lookup (ends.not_internal reference)
      · rfl
  | @on node target last pointer next trail reference lookup rest ih =>
    obtain ⟨fuel, rfl⟩ : ∃ less, fuel = less + 1 := Nat.exists_eq_add_one.mpr (Nat.lt_of_lt_of_le
      (Nat.zero_lt_succ _) enough)
    have other : next ≠ place := by
      rintro rfl
      exact (Leads.on reference lookup rest).not_mem at_place List.mem_cons_self
    have found : node.reference.map doc.lookup = some (.internal next target) := by
      rw [reference, Option.map_some, lookup]
    rw [Document.followFrom, found]
    exact (if_neg other).trans (ih (nodeAt?_of_lookup lookup) (Nat.le_of_succ_le_succ enough))

end Leads

/-! ### The chain from the root -/

/-- What a node of the chain leads to, the root leads to. -/
theorem leads_of_rootChain (chain : RootChain doc place node) (leads : Leads doc node trail last) :
    ∃ whole, Leads doc doc.root whole last := by
  induction chain generalizing trail with
  | root => exact ⟨trail, leads⟩
  | next chain driver lookup ih => exact ih (.on (Node.reference_of_driver driver) lookup leads)

theorem rootChain_followFrom (chain : RootChain doc place node) (fuel : Nat) :
    ∃ place', RootChain doc place' (doc.followFrom place node fuel) := by
  induction fuel generalizing place node with
  | zero => exact ⟨place, chain⟩
  | succ fuel ih =>
    rw [Document.followFrom]
    split
    · rename_i next target found
      split
      · exact ⟨place, chain⟩
      · obtain ⟨pointer, reference, lookup⟩ := Option.map_eq_some_iff.mp found
        exact ih (.next chain (driver_of_reference reference) lookup)
    · exact ⟨place, chain⟩

theorem nodeAt?_of_rootChain (chain : RootChain doc place node) : nodeAt? doc place = some node := by
  cases chain with
  | root => rfl
  | next chain driver lookup => exact nodeAt?_of_lookup lookup

/-- The references from the root are followed to their end, however many there are. Whether they end or
lead round in a circle, the root or a definition that they lead to is what comes out. -/
theorem Document.resolvedRoot_on_chain (doc : Document) :
    (∀ place node, RootChain doc place node → Ends doc node → doc.resolvedRoot = node) ∧
    ∃ place, RootChain doc place doc.resolvedRoot ∧
      (place = .root ∧ doc.resolvedRoot = doc.root ∨
        ∃ name, place = .definition name ∧
          Table.get? doc.definitions name = some doc.resolvedRoot) := by
  constructor
  · intro place node chain ends
    obtain ⟨whole, leads⟩ := leads_of_rootChain chain (.here ends)
    exact leads.followFrom_eq rfl (Nat.le_succ_of_le leads.length_le)
  · obtain ⟨place, chain⟩ := rootChain_followFrom .root (doc.definitions.length + 1)
    refine ⟨place, chain, ?_⟩
    have at_place := nodeAt?_of_rootChain chain
    cases place with
    | root => exact .inl ⟨rfl, (Option.some.inj at_place).symm⟩
    | definition name => exact .inr ⟨name, rfl, at_place⟩

/-- A chain through every definition, to a reference out of the document. -/
def relay : Document where
  root := { reference := some "#/definitions/a" }
  definitions := [("a", { reference := some "#/$defs/b" }),
    ("b", { reference := some "other.json#/c", title := some "end" })]

theorem Document.resolvedRoot_on_chain_relay : ∃ node, RootChain relay (.definition "b") node ∧
    Ends relay node ∧ relay.resolvedRoot = node ∧ node.title = some "end" := by
  have chain : RootChain relay (.definition "b")
      { reference := some "other.json#/c", title := some "end" } :=
    .next (.next .root (driver_of_reference rfl) rfl) (driver_of_reference rfl) rfl
  have ends : Ends relay { reference := some "other.json#/c", title := some "end" } := by
    intro pointer reference
    cases reference
    exact .inl rfl
  exact ⟨_, chain, ends, relay.resolvedRoot_on_chain.1 _ _ chain ends, rfl⟩

/-- A root that refers to itself is the end of its circle. -/
example : Document.resolvedRoot { root := { reference := some "#", title := some "self" } } =
    { reference := some "#", title := some "self" } := rfl

end MockApi.Schema
