import MockApi.Generation.Vocabulary
import MockApi.Proofs.Generation.Keeping.Walks
import MockApi.Proofs.Generation.Soundness
import MockApi.Random.Script

/-!
# What keeps a value from being generated

A generation fails only at a reference that leads nowhere, and it is a reference of a node that the walk
comes to (`generate_fails_at_missing`). Without such a reference every generation succeeds, whatever is
drawn: cycles end where they are met again, depth ends, and keywords that contradict each other are
settled one way or another.
-/

namespace MockApi.Generation

open Schema Validation

variable {doc : Document} {node n : Node}

/-- A walk comes to what is written in the node or in the document. -/
theorem occurs_of_reaches (reaches : Reaches doc node n) : Occurs doc node n := by
  induction reaches with
  | refl => exact .self
  | tail _ step occurs =>
    cases step with
    | oneOf driver mem => exact .branch occurs (.inl (Node.oneOf_of_driver driver ▸ mem))
    | child child =>
      cases child with
      | reference driver lookup => exact occurs_of_nodeAt? (nodeAt?_of_lookup lookup)
      | anyOf driver mem => exact .branch occurs (.inr (.inl (Node.anyOf_of_driver driver ▸ mem)))
      | allOf driver mem => exact .branch occurs (.inr (.inr (Node.allOf_of_driver driver ▸ mem)))
      | property takes mem => exact .property occurs mem
      | single takes items => exact .single occurs items
      | tuple takes items mem => exact .tuple occurs items mem

/-- Where the fault comes from: a reference on the way that leads nowhere. -/
inductive Dangles (doc : Document) (node : Node) : Fault → Prop
  | intro {n : Node} {pointer : String} (reaches : Reaches doc node n)
      (reference : n.reference = some pointer) (missing : doc.lookup pointer = .missing) :
      Dangles doc node (.danglingReference pointer)

theorem samples_keep_none {σ : Type} [Source σ] (samples : Samples σ) : samples.Keeps Invariant.none where
  mail _ _ := ⟨trivial, trivial⟩
  host _ _ := ⟨trivial, trivial⟩
  link _ _ := ⟨trivial, trivial⟩
  phone _ _ := ⟨trivial, trivial⟩

theorem generate_ends {σ : Type} [Source σ] (plan : Plan σ)
    (short : ∀ n, Reaches plan.document node n → Short n.toKeywords) (source : σ) :
    Ends (Dangles plan.document node) (fun _ => True) (generate plan node source).1 := by
  have walkable : Walkable (Dangles plan.document node) plan.document node :=
    ⟨short, fun n pointer reaches reference missing => .intro reaches reference missing⟩
  exact (generate_keeps (samples_keep_none _) trivial walkable source trivial).1

/-- Whatever is drawn, and whatever the options are: a generation that fails does so with a dangling
reference, which is that of a node on the way and leads nowhere in the document. Such a node is the one
that was started from, a part of it, or a node of the document. If there is none, a value is
generated. -/
theorem generate_fails_at_missing {σ : Type} [Source σ] (plan : Plan σ) (node : Node)
    (short : ∀ n, Reaches plan.document node n → Short n.toKeywords) :
    (∀ source fault, (generate plan node source).1 = .error fault →
      ∃ n pointer, fault = .danglingReference pointer ∧ n.reference = some pointer ∧
        plan.document.lookup pointer = .missing ∧
        Reaches plan.document node n ∧ Occurs plan.document node n) ∧
    ((∀ n pointer, Reaches plan.document node n → n.reference = some pointer →
        plan.document.lookup pointer ≠ .missing) →
      ∀ source, ∃ value, (generate plan node source).1 = .ok value) := by
  refine ⟨fun source fault failed => ?_, fun found source => ?_⟩
  · have ends := generate_ends plan short source
    rw [failed] at ends
    obtain ⟨reaches, reference, missing⟩ : Dangles plan.document node fault := ends
    exact ⟨_, _, rfl, reference, missing, reaches, occurs_of_reaches reaches⟩
  · have ends := generate_ends plan short source
    cases result : (generate plan node source).1 with
    | ok value => exact ⟨value, rfl⟩
    | error fault =>
      rw [result] at ends
      obtain ⟨reaches, reference, missing⟩ : Dangles plan.document node fault := ends
      exact absurd missing (found _ _ reaches reference)

/-! ### A knot -/

namespace Knot

def again : Node := { reference := some "#" }

def lost : Node := { reference := some "#/definitions/lost" }

/-- One of several nodes, some of which may be the whole thing once more. -/
def document (branches : List Node) : Document := { root := { oneOf := branches } }

theorem lookup_again (branches : List Node) : (document branches).lookup "#" =
    .internal .root (document branches).root := rfl

theorem lookup_lost (branches : List Node) :
    (document branches).lookup "#/definitions/lost" = .missing := rfl

/-- Every walk stays in the knot. -/
theorem mem_of_reaches {first : Node} {rest : List Node} (known : first :: rest ⊆ [again, lost])
    (reaches : Reaches (document (first :: rest)) (document (first :: rest)).root n) :
    n = (document (first :: rest)).root ∨ n ∈ first :: rest := by
  induction reaches with
  | refl => exact .inl rfl
  | @tail n next _ step ih =>
    rcases ih with rfl | mem
    · cases step with
      | child child => exact (child.part : Part _ _ next (.oneOf _)).elim
      | oneOf driver mem =>
        cases driver
        exact .inr mem
    · rcases List.mem_cons.mp (known mem) with rfl | mem
      · cases step with
        | child child =>
          obtain ⟨place, lookup⟩ : Part _ again next (.reference "#") := child.part
          cases (lookup_again _).symm.trans lookup
          exact .inl rfl
        | oneOf driver mem => cases driver
      · obtain rfl := List.mem_singleton.mp mem
        cases step with
        | child child =>
          obtain ⟨place, lookup⟩ : Part _ lost next (.reference "#/definitions/lost") := child.part
          cases (lookup_lost _).symm.trans lookup
        | oneOf driver mem => cases driver

theorem short {first : Node} {rest : List Node} (known : first :: rest ⊆ [again, lost])
    (reaches : Reaches (document (first :: rest)) (document (first :: rest)).root n) :
    Short n.toKeywords := by
  rcases mem_of_reaches known reaches with rfl | mem
  · exact nofun
  · rcases List.mem_cons.mp (known mem) with rfl | mem
    · exact nofun
    · obtain rfl := List.mem_singleton.mp mem
      exact nofun

def plan (branches : List Node) : Plan Script :=
  ⟨document branches, ⟨Binary64.one, 8, false⟩, ⟨Samples.ofVocabulary, ⟨0⟩⟩⟩

def loose : Plan Script := plan [again, lost]

def tied : Plan Script := plan [again]

/-- Draws the second of two branches. -/
def second : Script := ⟨[0x8000000000000000], 0, 0⟩

end Knot

/-- A knot with a loose end fails there if that is drawn; one without is drawn until it comes back to
itself. -/
theorem generate_fails_at_missing_knot :
    (∃ pointer n, (generate Knot.loose Knot.loose.document.root Knot.second).1 =
        .error (.danglingReference pointer) ∧ n.reference = some pointer ∧
        Reaches Knot.loose.document Knot.loose.document.root n) ∧
      ∃ value, (generate Knot.tied Knot.tied.document.root ⟨[], 0, 0⟩).1 = .ok value := by
  constructor
  · have known : [Knot.again, Knot.lost] ⊆ [Knot.again, Knot.lost] := List.Subset.refl _
    cases result : (generate Knot.loose Knot.loose.document.root Knot.second).1 with
    | ok value =>
      have failed :
          (generate Knot.loose Knot.loose.document.root Knot.second).1.isOk = false := by
        decide +kernel
      rw [result] at failed
      cases failed
    | error fault =>
      obtain ⟨n, pointer, rfl, reference, -, reaches, -⟩ :=
        (generate_fails_at_missing Knot.loose _ fun n => Knot.short known).1 _ _ result
      exact ⟨pointer, n, rfl, reference, reaches⟩
  · have known : [Knot.again] ⊆ [Knot.again, Knot.lost] := List.subset_append_left [Knot.again] _
    refine (generate_fails_at_missing Knot.tied _ fun n => Knot.short known).2 ?_ _
    intro n pointer reaches reference
    rcases Knot.mem_of_reaches known reaches with rfl | mem
    · cases reference
    · obtain rfl := List.mem_singleton.mp mem
      cases reference
      exact (Knot.lookup_again [Knot.again]).symm ▸ nofun

end MockApi.Generation
