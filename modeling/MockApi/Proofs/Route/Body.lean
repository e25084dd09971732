import MockApi.Proofs.Route.Derived
import MockApi.Proofs.Validation.Collapse
import MockApi.Proofs.Validation.Stripping

/-!
# Bodies of requests

The bodies for creating and replacing are checked against a copy of the resource, of which the root asks for
none of the members that the server sets. An object that the resource accepts may then lack them
(`derivedRoutes_acceptWithout`), unless another node at the place of the root demands one, or something
depends on what the root was (`Lenient`). Each of these conditions is needed
(`derivedRoutes_demand_serverMembers`).
-/

namespace MockApi.Resource

open Schema Validation

variable {document : Document} {dropped : List String} {members : List (String × Json)}

/-! ### The schema of bodies -/

theorem validation_of_mem_routes {resource : Resource} {collection : String} {route : Route}
    (mem : route ∈ resource.routes collection) (writes : route.method = .post ∨ route.method = .put) :
    route.validation = some (bodyDocument resource.document) := by
  simp only [routes, List.mem_cons, List.not_mem_nil, or_false] at mem
  rcases mem with rfl | rfl | rfl | rfl | rfl
  case inr.inr.inl | inr.inr.inr.inl => rfl
  all_goals exact absurd writes (by simp [Route.ofPath])

/-- What the resource accepts, the routes that create and replace accept without the members. -/
def AcceptedWithout (document : Document) (dropped : List String) (members : List (String × Json)) : Prop :=
  checkBody document (some (.object members)) = .ok () →
    ∀ basePath listMin listMax name,
      ∀ route ∈ derivedRoutes basePath listMin listMax document name,
        route.method = .post ∨ route.method = .put →
          ∃ body, route.validation = some body ∧
            checkBody body (some (.object (Table.without dropped members))) = .ok ()

theorem acceptedWithout_iff :
    AcceptedWithout document dropped members ↔
      (checkBody document (some (.object members)) = .ok () →
        checkBody (bodyDocument document) (some (.object (Table.without dropped members))) = .ok ()) := by
  refine forall_congr' fun accepted => ⟨fun forgiven => ?_, fun forgiven => ?_⟩
  · obtain ⟨body, attached, passes⟩ := forgiven "" 0 0 none _
      (List.mem_cons_of_mem _ (List.mem_cons_of_mem _ List.mem_cons_self)) (.inl rfl)
    cases attached
    exact passes
  · intro basePath listMin listMax name route mem writes
    exact ⟨_, validation_of_mem_routes mem writes, forgiven⟩

theorem bodyDocument_relaxes (document : Document) :
    Relaxes document.resolvedRoot (bodyDocument document).root :=
  ⟨_, List.filter_sublist.subset, rfl⟩

/-- The root of the schema of bodies asks for no member that the server sets, unless it is given by its
values. -/
theorem not_demands_root (server : dropped ⊆ serverMembers)
    (fixed : ∀ value ∈ (bodyDocument document).root.fixedValues, ∀ name ∈ dropped,
      value.member? name = none) :
    ∀ name ∈ dropped, ¬(bodyDocument document).root.Demands name := by
  rintro name gone (⟨-, required⟩ | ⟨value, listed, present⟩)
  · have kept := (List.mem_filter.mp required).2
    simp [server gone] at kept
  · simp [fixed value listed name gone] at present

/-! ### Schemas of bodies that ask for more -/

namespace Demanding

def idMember : List (String × Json) := [("id", .string "1")]

def requiring (name : String) : Node := { required := [name] }

/-- Another node at the place of the root requires a member. -/
def branching : Document := { root := { allOf := [requiring "id"] } }

/-- The root is one value, which has a member. -/
def constant : Document := { root := { constant := some (.object idMember) } }

/-- Without the members, neither alternative accepts. -/
def alternatives : Document := { root := { oneOf := [requiring "id", requiring "name"] } }

def next : Node := { oneOf := [{ reference := some rootKey }, .ofKind .object] }

/-- Below the root an object is to be no such object again. -/
def excluding (required : List String) : Document where
  root := { type := some (.single .object), required, properties := [("next", next)] }

/-- Where nothing is required, the other keywords decide on the kind. -/
def kindless : Document := { root := { required := ["id"], minLength := some 1 } }

def linked : Node where
  type := some (.single .object)
  properties := [("next", { reference := some rootKey })]

/-- The reference from the root lets a value be null that its target does not. -/
def nullable : Document where
  root := { nullable := some true, reference := some "#/definitions/Linked" }
  definitions := [("Linked", linked)]

section

variable {doc : Document} {guard : Guard} {path : String}

theorem check_requiring_iff {name : String} :
    check doc guard (requiring name) (.object members) path = .ok () ↔
      Table.has members name = true := by
  rw [check_object_iff rfl]
  simp [requiring]

theorem checkBody_branching_iff :
    checkBody branching (some (.object members)) = .ok () ↔ Table.has members "id" = true := by
  have driver : branching.root.driver = .allOf [requiring "id"] := rfl
  rw [checkBody, checkNode, check_driven rfl driver, driven, checkAll_eq_ok]
  exact List.forall_mem_singleton.trans check_requiring_iff

theorem checkBody_constant_iff :
    checkBody constant (some (.object members)) = .ok () ↔
      (Json.object members).same (.object idMember) = true := by
  have driver : constant.root.driver = .constant (.object idMember) := rfl
  rw [checkBody, checkNode, check_driven rfl driver, driven, ite_fail_eq_ok]
  rfl

theorem checkBody_alternatives_iff :
    checkBody alternatives (some (.object members)) = .ok () ↔
      ["id", "name"].countP (Table.has members) = 1 := by
  have requires (name : String) : Table.has members name =
      (check alternatives [] (requiring name) (.object members) rootPath).isOk :=
    Bool.eq_iff_iff.mpr (check_requiring_iff.symm.trans isOk_iff.symm)
  have driver : alternatives.root.driver = .oneOf (["id", "name"].map requiring) := rfl
  rw [checkBody, checkNode, check_driven rfl driver, driven, ite_fail_eq_ok, List.countP_map,
    funext requires]
  rfl

theorem check_excluding_iff (required : List String) :
    check (excluding required) guard (excluding required).root (.object []) path = .ok () ↔
      required = [] := by
  rw [check_object_iff rfl]
  constructor
  · rintro ⟨demanded, -⟩
    exact List.eq_nil_iff_forall_not_mem.mpr fun name mem => nomatch demanded name mem
  · rintro rfl
    exact ⟨nofun, nofun⟩

/-- What the root accepts, both alternatives accept. -/
theorem check_next_iff (required : List String) :
    check (excluding required) [] next (.object []) path = .ok () ↔ required ≠ [] := by
  have driver : next.driver = .oneOf [{ reference := some rootKey }, .ofKind .object] := rfl
  have lookup : (excluding required).lookup rootKey = .internal .root (excluding required).root := rfl
  have behind : check (excluding required) [] { reference := some rootKey } (.object []) path = .ok () ↔
      required = [] := by
    rw [check_internal_eq_ok rfl rfl lookup, Accepts]
    exact (or_iff_right (by simp [Move.InProgress])).trans (check_excluding_iff required)
  have object : check (excluding required) [] (.ofKind .object) (.object []) path = .ok () :=
    (check_object_iff rfl).mpr (by simp [Node.ofKind])
  rw [check_driven rfl driver, driven, ite_fail_eq_ok, List.countP_cons, List.countP_singleton,
    isOk_iff.mpr object, if_pos rfl]
  by_cases empty : required = []
  · rw [isOk_iff.mpr (behind.mpr empty)]
    simp [empty]
  · have refused := Bool.eq_false_iff.mpr fun passes => empty (behind.mp (isOk_iff.mp passes))
    simp [refused, empty]

theorem checkBody_excluding_iff (required : List String) (fewer : required ⊆ ["id"]) :
    checkBody (excluding required) (some (.object (("next", .object []) :: idMember))) = .ok () ↔
      required ≠ [] := by
  rw [checkBody, checkNode, Option.getD_some, check_object_iff rfl]
  constructor
  · rintro ⟨-, properties⟩
    exact (check_next_iff required).mp (properties ("next", next) List.mem_cons_self _ rfl)
  · intro some
    refine ⟨fun name mem => ?_, fun entry mem member found => ?_⟩
    · cases List.mem_singleton.mp (fewer mem)
      decide
    · cases List.mem_singleton.mp mem
      cases found
      exact (check_next_iff required).mpr some

theorem accepted_kindless : checkBody kindless (some (.object idMember)) = .ok () := by
  rw [checkBody, checkNode, Option.getD_some, check_object_iff rfl]
  exact ⟨by simp [kindless, idMember, Table.has, Table.get?], nofun⟩

theorem refused_kindless : checkBody (bodyDocument kindless) (some (.object idMember)) ≠ .ok () := by
  have driver : (bodyDocument kindless).root.driver = .typed .string := rfl
  rw [checkBody, checkNode, Option.getD_some, check_typed rfl driver, checkKind_refused rfl]
  exact fail_ne_ok _ _ _

theorem accepted_nullable : checkBody nullable (some (.object [("next", .null)])) = .ok () := by
  have lookup : nullable.lookup "#/definitions/Linked" = .internal (.definition "Linked") linked := rfl
  have again : nullable.lookup rootKey = .internal .root nullable.root := rfl
  rw [checkBody, checkNode, Option.getD_some, check_internal_eq_ok rfl rfl lookup]
  refine .inr ((check_object_iff rfl).mpr ⟨nofun, fun entry mem member found => ?_⟩)
  cases List.mem_singleton.mp mem
  cases found
  rw [check_internal_eq_ok rfl rfl again]
  exact .inr (check_null rfl)

theorem refused_nullable :
    checkBody (bodyDocument nullable) (some (.object [("next", .null)])) ≠ .ok () := by
  have lookup : (bodyDocument nullable).lookup rootKey = .internal .root linked := rfl
  have driver : linked.driver = .typed .object := rfl
  rw [checkBody, checkNode, Option.getD_some, ne_eq, check_object_iff rfl]
  rintro ⟨-, properties⟩
  have below := properties ("next", { reference := some rootKey }) List.mem_cons_self _ rfl
  rw [check_internal_eq_ok rfl rfl lookup, Accepts, check_typed rfl driver, checkKind_refused rfl]
    at below
  simp [Move.InProgress] at below

end

end Demanding

open Demanding in
/-- Bodies may be refused for what is beside the root, for the root being one value, for alternatives at the
root or below, for another kind of the root, and for a null that only the reference to the root allowed. -/
theorem derivedRoutes_demand_serverMembers :
    ¬AcceptedWithout branching ["id"] idMember ∧ ¬AcceptedWithout constant ["id"] idMember ∧
    ¬AcceptedWithout alternatives ["id"] idMember ∧
    ¬AcceptedWithout (excluding ["id"]) [] (("next", .object []) :: idMember) ∧
    ¬AcceptedWithout kindless [] idMember ∧ ¬AcceptedWithout nullable [] [("next", .null)] := by
  simp only [acceptedWithout_iff]
  refine ⟨fun kept => ?_, fun kept => ?_, fun kept => ?_, fun kept => ?_, fun kept => ?_, fun kept => ?_⟩
  · exact absurd (checkBody_branching_iff.mp (kept (checkBody_branching_iff.mpr rfl))) (by decide)
  · exact absurd (checkBody_constant_iff.mp (kept (checkBody_constant_iff.mpr rfl))) (by decide)
  · exact absurd (checkBody_alternatives_iff.mp (kept (checkBody_alternatives_iff.mpr rfl))) (by decide)
  · have accepted := (checkBody_excluding_iff ["id"] (List.Subset.refl _)).mpr (by simp)
    exact (checkBody_excluding_iff [] (List.nil_subset _)).mp (kept accepted) rfl
  · exact refused_kindless (kept accepted_kindless)
  · exact refused_nullable (kept accepted_nullable)

/-! ### What else may ask for a member -/

/-- Apart from what its root requires, the schema of bodies asks for none of the members, and nothing in it
depends on what the root was. -/
structure Lenient (document body : Document) (dropped : List String) : Prop where
  unseen : body = document ∨ Unseen document body
  fixed : ∀ value ∈ body.root.fixedValues, ∀ name ∈ dropped, value.member? name = none
  beside : ∀ n, SamePlace body body.root n → n ≠ body.root → ∀ name ∈ dropped, ¬n.Demands name
  alternatives : ∀ n branches, SamePlace body body.root n → n.driver = .oneOf branches →
    Exclusive body n ∨ Indifferent body dropped n

namespace Lenient

/-- The whole value is accepted by the schema of bodies. -/
theorem accepts_whole {whole : Json} (lenient : Lenient document (bodyDocument document) dropped)
    (plain : Plain (bodyDocument document) (bodyDocument document).root whole)
    (present : whole.isNull = false) (accepted : checkNode document document.root whole = .ok ()) :
    checkNode (bodyDocument document) (bodyDocument document).root whole = .ok () := by
  rcases lenient.unseen with same | unseen
  · rwa [same]
  · have replaces : Replaces document (bodyDocument document) :=
      { unseen with shared := rfl, relaxes := bodyDocument_relaxes document }
    exact replaces.accepts_whole plain present accepted

theorem strippable (lenient : Lenient document (bodyDocument document) dropped)
    (server : dropped ⊆ serverMembers) :
    Strippable (bodyDocument document) dropped (bodyDocument document).root where
  undemanded n same name gone := by
    by_cases root : n = (bodyDocument document).root
    · subst root
      exact not_demands_root server lenient.fixed name gone
    · exact lenient.beside n same root name gone
  alternatives := lenient.alternatives

/-- At the place of a root of one kind there is no other node. -/
theorem of_typed {body : Document} {kind : Kind} (typed : body.root.driver = .typed kind)
    (unseen : body = document ∨ Unseen document body) : Lenient document body dropped where
  unseen := unseen
  fixed := by simp [Node.fixedValues, typed]
  beside n same other := absurd (same.eq_of_typed typed) other
  alternatives n branches same driver := by
    obtain rfl := same.eq_of_typed typed
    cases typed.symm.trans driver

end Lenient

/-- Routes that create and replace accept what the resource accepts, also without the members that the
server sets. -/
theorem derivedRoutes_acceptWithout (server : dropped ⊆ serverMembers)
    (lenient : Lenient document (bodyDocument document) dropped)
    (plain : Plain (bodyDocument document) (bodyDocument document).root (.object members)) :
    AcceptedWithout document dropped members := by
  refine acceptedWithout_iff.mpr fun accepted => ?_
  have whole : checkNode (bodyDocument document) (bodyDocument document).root (.object members) = .ok () :=
    lenient.accepts_whole plain rfl accepted
  exact Strippable.accepts _ _ members dropped [] rootPath _ _ rfl (lenient.strippable server) .start whole

/-! ### A resource that refers to itself -/

namespace Pets

def text : Node := .ofKind .string

def up : Node := { reference := some rootKey }

/-- Another pet, or none. -/
def parent : Node := { oneOf := [up, .ofKind .null] }

/-- One text, or several. -/
def tag : Node := { oneOf := [text, .ofKind .array] }

def pet : Node where
  type := some (.single .object)
  required := ["id", "name", "createdAt"]
  properties := [("id", text), ("name", text), ("parent", parent), ("tag", tag)]

/-- Each pet may have a parent, which is a pet. -/
def pets : Document where
  root := { reference := some "#/definitions/Pet" }
  definitions := [("Pet", pet)]

def named (name : String) (others : List (String × Json)) : List (String × Json) :=
  [("id", .string "1"), ("name", .string name), ("createdAt", .string ""), ("tag", .string "small")] ++
    others

/-- A pet and its parent. -/
def rex : List (String × Json) := named "Rex" [("parent", .object (named "Bo" []))]

/-! #### The pet is accepted -/

section

variable {guard : Guard} {path : String}

theorem check_ofKind (kind : Kind) (value : Json)
    (present : (value.isNull && (Node.ofKind kind).isNullable) = false) :
    check document guard (.ofKind kind) value path =
      checkKind document guard (.ofKind kind) kind value path :=
  check_typed present rfl

theorem check_text (s : String) : check pets guard text (.string s) path = .ok () := by
  rw [text, check_ofKind .string _ rfl, checkKind_string]
  rfl

theorem check_tag (s : String) : check pets guard tag (.string s) path = .ok () := by
  have driver : tag.driver = .oneOf [text, .ofKind .array] := rfl
  rw [check_driven rfl driver, driven, List.countP_cons, List.countP_singleton, check_text,
    check_ofKind .array _ rfl, checkKind_refused rfl]
  rfl

theorem check_parent
    (accepted : check pets ((rootKey, path) :: guard) pets.root (.object members) path = .ok ()) :
    check pets guard parent (.object members) path = .ok () := by
  have driver : parent.driver = .oneOf [up, .ofKind .null] := rfl
  have lookup : pets.lookup rootKey = .internal .root pets.root := rfl
  have above : check pets guard up (.object members) path = .ok () :=
    (check_internal_eq_ok rfl rfl lookup).mpr (.inr accepted)
  rw [check_driven rfl driver, driven, List.countP_cons, List.countP_singleton, above,
    check_ofKind .null _ rfl, checkKind_refused rfl]
  rfl

theorem check_named (name : String) (others : List (String × Json))
    (below : ∀ value, Table.get? others "parent" = some value →
      check pets (("Pet", path) :: guard) parent value (childPath path "parent") = .ok ()) :
    check pets guard pets.root (.object (named name others)) path = .ok () := by
  have lookup : pets.lookup "#/definitions/Pet" = .internal (.definition "Pet") pet := rfl
  have behind : check pets (("Pet", path) :: guard) pet (.object (named name others)) path = .ok () := by
    refine (check_object_iff rfl).mpr ⟨?_, ?_⟩
    · simp [pet, named, Table.has, Table.get?]
    · simpa [pet, named, Table.get?, check_text, check_tag] using below
  exact (check_internal_eq_ok rfl rfl lookup).mpr (.inr behind)

theorem accepted_rex : checkBody pets (some (.object rex)) = .ok () := by
  refine check_named "Rex" _ fun value found => ?_
  cases found
  exact check_parent (check_named "Bo" [] nofun)

end

/-! #### What their bodies are checked against -/

/-- All that a check of a body may come to. -/
def nodes : List Node :=
  [(bodyDocument pets).root, text, up, .ofKind .null, .ofKind .array, parent, tag]

theorem nexts_subset : ∀ n ∈ nodes, nexts (bodyDocument pets) n ⊆ nodes := by
  simp only [nodes, List.forall_mem_cons]
  refine ⟨?_, List.nil_subset _, ?_, List.nil_subset _, List.nil_subset _, ?_, ?_, nofun⟩
  · show [text, text, parent, tag] ⊆ _
    simp
  · show [(bodyDocument pets).root] ⊆ _
    simp
  · show [up, .ofKind .null] ⊆ _
    simp
  · show [text, .ofKind .array] ⊆ _
    simp

theorem plain (whole : Json) : Plain (bodyDocument pets) (bodyDocument pets).root whole := by
  refine .inr fun n leads => ?_
  have inside := leads.mem_of_closed nodes nexts_subset List.mem_cons_self
  have apart : ∀ m ∈ nodes, rootPath ∉ Table.names m.properties := by decide
  exact apart n inside

theorem rootless_tag : Rootless (bodyDocument pets) tag := by
  intro n pointer target leads driver
  have inside : n ∈ [tag, text, .ofKind .array] := by
    refine leads.mem_of_closed _ ?_ List.mem_cons_self
    simp only [List.forall_mem_cons]
    exact ⟨List.subset_cons_self _ _, List.nil_subset _, List.nil_subset _, nofun⟩
  simp only [List.mem_cons, List.not_mem_nil, or_false] at inside
  rcases inside with rfl | rfl | rfl <;> cases driver

/-- A parent is a pet, which is no null. -/
theorem exclusive_parent : Exclusive (bodyDocument pets) parent := by
  have driver : parent.driver = .oneOf [up, .ofKind .null] := rfl
  have typed : (bodyDocument pets).root.driver = .typed .object := rfl
  have lookup : (bodyDocument pets).lookup rootKey = .internal .root (bodyDocument pets).root := rfl
  refine exclusive_of_pair driver fun whole guard path value call above null => ?_
  have unfollowed : (rootKey, path) ∉ guard := by
    intro followed
    obtain ⟨place, target, key, at_place, same⟩ := call.followed (plain whole) followed
    have at_root : nodeAt? (bodyDocument pets) .root = some (bodyDocument pets).root := rfl
    obtain rfl := nodeAt?_eq_of_key (by decide) at_root at_place key
    cases congrArg Node.driver (same.eq_of_typed typed)
  cases value with
  | null =>
    rw [check_internal_eq_ok rfl rfl lookup, Accepts, check_typed rfl typed] at above
    rcases above with followed | accepted
    · exact unfollowed followed
    · rw [checkKind_refused rfl] at accepted
      exact fail_ne_ok _ _ _ accepted
  | _ =>
    rw [check_ofKind .null _ rfl, checkKind_refused rfl] at null
    exact fail_ne_ok _ _ _ null

theorem chain_eq {place : Place} {n : Node} (chain : RootChain pets place n) : n = pets.root ∨ n = pet := by
  induction chain with
  | root => exact .inl rfl
  | next chain driver lookup ih =>
    rcases ih with rfl | rfl
    · cases driver
      cases lookup
      exact .inr rfl
    · cases driver

theorem unseen : Unseen pets (bodyDocument pets) where
  driver := .inl rfl
  nullable := .inr fun place n chain null => by
    rcases chain_eq chain with rfl | rfl <;> cases null
  keys := by decide
  alternatives n branches leads driver := by
    have inside := leads.mem_of_closed nodes nexts_subset List.mem_cons_self
    simp only [nodes, List.mem_cons, List.not_mem_nil, or_false] at inside
    rcases inside with rfl | rfl | rfl | rfl | rfl | rfl | rfl
    case inr.inr.inr.inr.inr.inl => exact .inl exclusive_parent
    case inr.inr.inr.inr.inr.inr =>
      refine .inr ⟨rootless_tag, fun same => ?_⟩
      cases congrArg Node.driver (same.eq_of_typed (show _ = Driver.typed .object from rfl))
    all_goals cases driver

end Pets

theorem derivedRoutes_acceptWithout_rex :
    ["id", "createdAt"] ⊆ serverMembers ∧
      Lenient Pets.pets (bodyDocument Pets.pets) ["id", "createdAt"] ∧
      Plain (bodyDocument Pets.pets) (bodyDocument Pets.pets).root (.object Pets.rex) ∧
      checkBody Pets.pets (some (.object Pets.rex)) = .ok () ∧
      AcceptedWithout Pets.pets ["id", "createdAt"] Pets.rex :=
  have server : ["id", "createdAt"] ⊆ serverMembers := by decide
  have lenient : Lenient Pets.pets (bodyDocument Pets.pets) ["id", "createdAt"] :=
    .of_typed (show _ = Driver.typed .object from rfl) (.inr Pets.unseen)
  ⟨server, lenient, Pets.plain _, Pets.accepted_rex,
    derivedRoutes_acceptWithout server lenient (Pets.plain _)⟩

end MockApi.Resource
