import MockApi.Proofs.Validation.Unfolding

/-!
# Nothing is rejected wrongly

The walk accepts every value that satisfies its node. What it assumes of a reference that is being
followed can only make it accept more.
-/

namespace MockApi.Validation

open Schema

/-- A node that holds of a value is accepted, whichever references are being followed. -/
theorem check_of_satisfies {doc : Document} {node : Node} {value : Json}
    (holds : Satisfies doc node value) (guard : Guard) (path : String) :
    check doc guard node value path = .ok () := by
  induction guard, path, node, value using walk_induction doc with
  | step guard path node value ih =>
    have meets := satisfies_iff.mp holds
    cases hn : value.isNull && node.isNullable with
    | true => exact check_null hn
    | false =>
      have plain (branches : List Node) (driver : node.driver = .oneOf branches) : False :=
        meets.asks hn driver
      rw [check_eq_ok plain]
      refine meets.mono fun move n v part holds => ?_
      by_cases followed : move.InProgress guard path
      · exact .inl followed
      · exact .inr (ih move n v part followed holds)

/-! ### Definitions that refer to each other -/

namespace Chain

def toFirst : Node := { reference := some "#/definitions/first" }

def toSecond : Node := { reference := some "#/definitions/second" }

def link : Node := { type := some (.single .object), properties := [("next", toFirst)] }

def first : Node := { allOf := [toSecond, link] }

def second : Node := { anyOf := [toFirst] }

/-- The first definition asks for the second of the same value, and the second for the first. -/
def document : Document where
  root := first
  definitions := [("first", first), ("second", second)]

/-- Objects, each with at most one next object. -/
inductive IsChain : Json → Prop
  | last : IsChain (.object [])
  | next {v : Json} (chain : IsChain v) : IsChain (.object [("next", v)])

/-- The nodes of the document. -/
def nodes : List Node := [toFirst, toSecond, link, first, second]

theorem lookup_first :
    document.lookup "#/definitions/first" = .internal (.definition "first") first := rfl

theorem lookup_second :
    document.lookup "#/definitions/second" = .internal (.definition "second") second := rfl

/-- Chains satisfy every node: none asks for more. -/
theorem satisfies {n : Node} {v : Json} (mem : n ∈ nodes) (chain : IsChain v) :
    Satisfies document n v := by
  refine Satisfies.of_closed (Q := fun n v => n ∈ nodes ∧ IsChain v) ?_ ⟨mem, chain⟩
  rintro n v ⟨mem, chain⟩
  simp only [nodes, List.mem_cons, List.not_mem_nil, or_false] at mem
  rcases mem with rfl | rfl | rfl | rfl | rfl
  · exact .internal rfl lookup_first ⟨by simp [nodes], chain⟩
  · exact .internal rfl lookup_second ⟨by simp [nodes], chain⟩
  · refine .typed rfl ?_
    cases chain with
    | last => exact .object nofun fun _ _ _ _ found => nomatch found
    | next chain =>
      refine .object nofun ?_
      intro name property mem member found
      cases List.mem_singleton.mp mem
      cases found
      exact ⟨by simp [nodes], chain⟩
  · have driver : first.driver = .allOf [toSecond, link] := rfl
    refine .allOf driver fun branch mem => ⟨?_, chain⟩
    simp only [List.mem_cons, List.not_mem_nil, or_false] at mem
    rcases mem with rfl | rfl
    · simp [nodes]
    · simp [nodes]
  · exact .anyOf rfl List.mem_cons_self ⟨by simp [nodes], chain⟩

end Chain

/-- A value that satisfies a node of the document passes its check. -/
theorem checkNode_of_satisfies {doc : Document} {node : Node} {value : Json}
    (holds : Satisfies doc node value) : checkNode doc node value = .ok () :=
  check_of_satisfies holds [] rootPath

/-- A chain of two passes. -/
theorem checkNode_of_satisfies_chain :
    Satisfies Chain.document Chain.first (.object [("next", .object [])]) ∧
      checkNode Chain.document Chain.first (.object [("next", .object [])]) = .ok () :=
  have holds := Chain.satisfies (by simp [Chain.nodes]) (.next .last)
  ⟨holds, checkNode_of_satisfies holds⟩

end MockApi.Validation
