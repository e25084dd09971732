import MockApi.Proofs.Engine.Storage
import MockApi.Proofs.Generation.Identifiers
import MockApi.Proofs.Generation.Keeping
import MockApi.Proofs.Route.Derived
import MockApi.Proofs.Route.RoundTrip

/-!
# What derived routes answer

A resource that is created or replaced is answered with the members of the request, of which some are set
and all others kept; one that is asked for is a generated value with the identifier of the path; and a list
has as many values as it says (`derivedRoutes_frame`). A body that is no object is refused before anything
is done. An engine that works in stages gives the answer that its backend responds (`Engine.run_answering`).
-/

namespace MockApi

namespace Template

open Route

/-- A parameter at the end of a template has the value that is read from the last part. -/
theorem exists_last_of_accepts {t : Template} {name : String} {parts : List (List Char)}
    (accepts : List.Forall₂ Segment.Accepts (t ++ [Segment.param name]) parts) :
    ∃ part before, parts.getLast? = some part ∧
      Template.readings (t ++ [Segment.param name]) parts = before ++ [(name, unescape part)] := by
  induction t generalizing parts with
  | nil =>
    obtain ⟨part, rest, -, others, rfl⟩ := List.forall₂_cons_left_iff.mp accepts
    cases others
    exact ⟨part, [], rfl, rfl⟩
  | cons segment t ih =>
    obtain ⟨first, rest, -, others, rfl⟩ := List.forall₂_cons_left_iff.mp accepts
    obtain ⟨part, before, last, read⟩ := ih others
    have last' : (first :: rest).getLast? = some part := by rw [List.getLast?_cons, last, Option.getD_some]
    cases segment with
    | literal text => exact ⟨part, before, last', read⟩
    | param other => exact ⟨part, (other, unescape first) :: before, last', congrArg (_ :: ·) read⟩

theorem exists_last_of_matchPath {t : Template} {name path : String} {params : Table String}
    (found : Template.matchPath (t ++ [Segment.param name]) path = some params) :
    ∃ part, (pathParts path.toList).getLast? = some part ∧
      Table.get? params name = some (unescape part) := by
  obtain ⟨accepts, rfl⟩ := matchPath_eq_some_iff.mp found
  obtain ⟨part, before, last, read⟩ := exists_last_of_accepts accepts
  have alone : Table.get? (Table.ofList [(name, unescape part)]) name = some (unescape part) :=
    Table.get?_insert_self [] name _
  exact ⟨part, last, by rw [read, Table.get?_ofList_append, alone, Option.some_or]⟩

end Template

/-- The identifier of this kind that is issued as the `n`th. One that is drawn is a UUID. -/
def IdKind.Mints (n : Nat) (id : Json) (kind : IdKind) : Prop :=
  kind.Shows n id ∧ (kind = .uuid → ∃ text, id = .string text ∧ Validation.isUuid text = true)

theorem Store.mints_nextId (s : Store) (kind : IdKind) (source : Cipher) :
    kind.Mints (s.issued + 1) (s.nextId kind source).2.1 := by
  refine ⟨(s.nextId_cases kind source).2, ?_⟩
  rintro rfl
  have drawn := Generation.uuidText_gives source
  unfold nextId
  generalize Generation.uuidText source = text at drawn ⊢
  exact ⟨_, rfl, drawn⟩

namespace Backend

open Generation

variable {b b' : Backend} {now : Instant} {source : ResponseSource} {params : Table String}
  {body : Option Json} {r : Resource}

/-! ### One answer after the other -/

/-- A body that is made at once is the answer. -/
theorem respond_of_made {result : Except Error Json}
    (begins : b.begin now source params body = (b', .made result)) :
    b.respond now source params body = (b', result) := by
  simp only [respond, begins, advance]

theorem sets_createdMembers (id : Json) (now : Instant) (members : Table Json) :
    Table.Sets members [("updatedAt", .string now.milliText), ("createdAt", .string now.milliText), ("id", id)]
      (createdMembers id now members) :=
  (((Table.Sets.refl members).insert _ _).insert _ _).insert _ _

theorem sets_replacedMembers (id : String) (now : Instant) (members : Table Json) :
    Table.Sets members [("updatedAt", .string now.milliText), ("id", .string id)]
      (replacedMembers id now members) :=
  ((Table.Sets.refl members).insert _ _).insert _ _

theorem respond_create (b : Backend) (now : Instant) (r : Resource) (params : Table String)
    (members : Table Json) :
    ∃ id entropy, r.idKind.Mints (b.store.issued + 1) id ∧
      b.respond now (.computed .create r) params (some (.object members)) =
        ({ b with
            store := { b.store with issued := b.store.issued + 1, created := b.store.created + 1 }
            entropy },
          .ok (success ("Created " ++ r.label) [("data", .object (createdMembers id now members))])) := by
  obtain ⟨issued, -⟩ := b.store.nextId_cases r.idKind b.entropy
  have mints := b.store.mints_nextId r.idKind b.entropy
  rcases issues : b.store.nextId r.idKind b.entropy with ⟨store, id, entropy⟩
  rw [issues] at issued mints
  refine ⟨id, entropy, mints, ?_⟩
  simp only [respond, begin, newMembers, bodyMembers, advance, issues, issued]
  rfl

theorem respond_replace (b : Backend) (now : Instant) (r : Resource) (params : Table String)
    (members : Table Json) :
    b.respond now (.computed .replace r) params (some (.object members)) =
      ({ b with store := b.store.recordUpdate },
        .ok (success ("Updated " ++ r.label ++ " " ++ pathId params)
          [("data", .object (replacedMembers (pathId params) now members))])) :=
  respond_of_made rfl

theorem bodyMembers_of_not_object {value : Json} (other : ∀ members, value ≠ .object members) :
    bodyMembers value = .error (.invalidBody ("expected a JSON object, got " ++ kindName value)) := by
  cases value with
  | object members => exact absurd rfl (other members)
  | _ => rfl

/-- A body that is no object is refused, and nothing is done. -/
theorem respond_of_not_object {action : Action} {value : Json}
    (reads : action = .create ∨ action = .replace) (other : ∀ members, value ≠ .object members) :
    b.respond now (.computed action r) params (some value) =
      (b, .error (.invalidBody ("expected a JSON object, got " ++ kindName value))) := by
  have refused := bodyMembers_of_not_object other
  rcases reads with rfl | rfl
  · exact respond_of_made (by simp only [begin, newMembers, refused])
  · exact respond_of_made (by simp only [begin, Option.map_some, Option.getD_some, refused])

/-! ### Generated values -/

/-- As many values are listed as the resource allows, and each is one that is generated. -/
theorem listDraw_keeps {σ : Type} [Source σ] {I : Invariant σ} {F : Fault → Prop} {P : Json → Prop}
    {plan : Plan σ} (sized : r.listMin ≤ r.listMax)
    (one : Keeps I.Holds F (generate plan r.document.root) P) :
    Keeps I.Holds F (listDraw plan r) fun items =>
      r.listMin ≤ items.length ∧ items.length ≤ r.listMax ∧ ∀ item ∈ items, P item := by
  refine (keeps_drawn (Draw.natBetween_keeps sized)).bind fun count between => ?_
  refine (Keeps.mapM_gives (R := fun _ => P) fun _ _ => one).mono fun items each => ?_
  have long : items.length = count := by rw [← each.length_eq, List.length_replicate]
  have all : List.Forall₂ (fun item _ => P item ∧ True) items (List.replicate count ()) :=
    each.flip.imp fun _ _ has => ⟨has, trivial⟩
  exact ⟨long ▸ between.1, long ▸ between.2, ((List.forall₂_and_left _ _).mp all).1⟩

/-- Whatever the source, values that can be generated are listed, or one cannot be. -/
theorem listDraw_ends {σ : Type} [Source σ] (plan : Plan σ) (sized : r.listMin ≤ r.listMax) (source : σ) :
    Ends (fun fault => ∃ source, (generate plan r.document.root source).1 = .error fault)
      (fun items => r.listMin ≤ items.length ∧ items.length ≤ r.listMax ∧
        ∀ item ∈ items, ∃ source, (generate plan r.document.root source).1 = .ok item)
      (listDraw plan r source).1 := by
  refine (listDraw_keeps (I := Invariant.none) sized (fun source _ => ⟨?_, trivial⟩) source trivial).1
  cases run : (generate plan r.document.root source).1 <;> exact ⟨source, run⟩

/-! ### Frames -/

/-- A success that has the value as its data. -/
def Presents (result : Except Error Json) (data : Json) : Prop :=
  ∃ response, result = .ok response ∧ response.member? "data" = some data

theorem presents_success (message : String) (data : Json) :
    Presents (.ok (success message [("data", data)])) data :=
  ⟨_, rfl, data?_success message data⟩

theorem compiled_ends {α β : Type} (result : Compiler × Except Fault α) (f : α → β) :
    (∀ fault, result.2 = .error fault → (b.compiled result f).2 = .error fault.toError) ∧
      ∀ value, result.2 = .ok value → (b.compiled result f).2 = .ok (f value) := by
  obtain ⟨compiler, fault | value⟩ := result
  · refine ⟨fun _ failed => ?_, nofun⟩
    cases failed
    rfl
  · refine ⟨nofun, fun _ given => ?_⟩
    cases given
    rfl

/-- A value that is asked for is presented with the identifier, if it has members, and as it is otherwise. -/
theorem presents_withId (r : Resource) (id : String) (value : Json) :
    (∀ members, value = .object members → ∃ data, Presents (.ok (getBody r id value)) (.object data) ∧
      Table.Sets members [("id", .string id)] data) ∧
    ((∀ members, value ≠ .object members) → Presents (.ok (getBody r id value)) value) := by
  have presents : Presents (.ok (getBody r id value)) (withId id value) := presents_success _ _
  refine ⟨?_, fun other => ?_⟩
  · rintro members rfl
    exact ⟨_, presents, (Table.Sets.refl members).insert _ _⟩
  · cases value with
    | object members => exact absurd rfl (other members)
    | _ => exact presents

/-- The value that is asked for is one that is compiled, if that succeeds. -/
theorem frame_get (b : Backend) (now : Instant) (r : Resource) (params : Table String) (body : Option Json) :
    let compiled := b.compiler.compile now r.document
    let answer := b.respond now (.computed .get r) params body
    answer.1 = { b with compiler := compiled.1 } ∧
      (∀ fault, compiled.2 = .error fault → answer.2 = .error fault.toError) ∧
      ∀ value, compiled.2 = .ok value →
        (∀ members, value = .object members → ∃ data, Presents answer.2 (.object data) ∧
          Table.Sets members [("id", .string (pathId params))] data) ∧
        ((∀ members, value ≠ .object members) → Presents answer.2 value) := by
  intro compiled answer
  have answers : answer = b.compiled compiled (getBody r (pathId params)) := respond_of_made rfl
  obtain ⟨fails, succeeds⟩ := compiled_ends (b := b) compiled (getBody r (pathId params))
  rw [answers]
  refine ⟨rfl, fails, fun value given => ?_⟩
  rw [succeeds value given]
  exact presents_withId r (pathId params) value

theorem listBody_members (r : Resource) (items : List Json) :
    (listBody r items).member? "data" = some (.array items) ∧
      (listBody r items).member? "count" = some (.ofNat items.length) := by
  refine ⟨?_, Table.get?_insert_self _ _ _⟩
  exact (Table.get?_insert_of_ne _ _ (show "data" ≠ "count" by decide)).trans (Table.get?_insert_self _ _ _)

/-- The values that are listed are counted, and none is listed if one cannot be generated. -/
theorem frame_list (b : Backend) (now : Instant) (r : Resource) (params : Table String) (body : Option Json)
    (sized : r.listMin ≤ r.listMax) :
    let plan : Plan Cipher := b.compiler.plan now r.document
    let answer := b.respond now (.computed .list r) params body
    answer.1.store = b.store ∧
      ((∃ fault source, (generate plan r.document.root source).1 = .error fault ∧
          answer.2 = .error fault.toError) ∨
        ∃ response items, answer.2 = .ok response ∧ response.member? "data" = some (.array items) ∧
          response.member? "count" = some (.ofNat items.length) ∧
          r.listMin ≤ items.length ∧ items.length ≤ r.listMax ∧
          ∀ item ∈ items, ∃ source, (generate plan r.document.root source).1 = .ok item) := by
  intro plan answer
  have answers : answer = b.compiled (b.compiler.run (listDraw plan r)) (listBody r) := respond_of_made rfl
  obtain ⟨fails, succeeds⟩ := compiled_ends (b := b) (b.compiler.run (listDraw plan r)) (listBody r)
  have ends := listDraw_ends plan sized b.compiler.child.2
  rw [answers]
  refine ⟨rfl, ?_⟩
  rcases listed : (listDraw plan r b.compiler.child.2).1 with fault | items <;> rw [listed] at ends
  · obtain ⟨source, failed⟩ := ends
    exact .inl ⟨fault, source, failed, fails fault listed⟩
  · obtain ⟨least, most, each⟩ := ends
    obtain ⟨data, count⟩ := listBody_members r items
    exact .inr ⟨_, items, succeeds items listed, data, count, least, most, each⟩

end Backend

/-! ### Answers in stages -/

namespace Engine

variable {e : Engine} {now : Instant} {request : Request} {m : RouteMatch} {delay : Nat}

theorem run_of_advance {e' : Engine} {stage stage' : Stage}
    (advances : e.advance now request stage = (e', stage')) (fuel : Nat) :
    e.run now request (fuel + 1) stage = e'.run now request fuel stage' := by
  rw [run, advances]

/-- A body that is not made yet is taken one step further. -/
theorem run_afterMaking {b : Backend} {making next : Making} (waits : making.isMade = false)
    (advances : e.backend.advance now making = (b, next)) (fuel : Nat) :
    e.run now request (fuel + 1) (afterMaking m delay making) =
      ({ e with backend := b } : Engine).run now request fuel (afterMaking m delay next) := by
  have step : e.advance now request (.making m making delay) =
      ({ e with backend := b }, afterMaking m delay next) := by
    simp only [advance, advances]
  cases making with
  | minting r members => exact run_of_advance step fuel
  | counting r members => exact run_of_advance step fuel
  | made result => cases waits

/-- However many stages it takes until a route has answered, the answer is what the backend responds. -/
theorem run_answering (e : Engine) (now : Instant) (request : Request) (m : RouteMatch) (delay : Nat) :
    let answer := e.backend.respond now m.route.source m.params request.body
    ∃ stages ≤ 3, e.run now request stages (.answering m delay) =
      ({ e with backend := answer.1 }, .settled (outcomeOf m.route answer.2) delay) := by
  unfold Backend.respond
  rcases begins : e.backend.begin now m.route.source m.params request.body with ⟨b, making⟩
  have first : e.advance now request (.answering m delay) =
      ({ e with backend := b }, afterMaking m delay making) := by
    simp only [advance, begins]
  cases making with
  | minting r members =>
    obtain ⟨entropy, id, minted, -⟩ := b.advance_minting now r members
    refine ⟨3, Nat.le_refl 3, ?_⟩
    rw [run_of_advance first, run_afterMaking rfl minted, run_afterMaking rfl rfl]
    simp only [minted]
    rfl
  | counting r members =>
    refine ⟨2, by decide, ?_⟩
    rw [run_of_advance first, run_afterMaking rfl rfl]
    rfl
  | made result => exact ⟨1, by decide, run_of_advance first 0⟩

end Engine

/-! ### Derived routes -/

namespace Resource

open Backend Generation Route

variable {basePath : String} {listMin listMax : Nat} {document : Schema.Document} {name : Option String}
  {route : Route} {path : String} {params : Table String}

/-- The route does for the resource what its method says, of one item or of the whole collection. -/
structure Serves (r : Resource) (collection : String) (route : Route) : Prop where
  create : route.method = .post → route.source = .computed .create r
  replace : route.method = .put →
    route.source = .computed .replace r ∧ route.template = Template.parse (itemPath collection)
  get : route.method = .get → route.template = Template.parse (itemPath collection) →
    route.source = .computed .get r
  list : route.method = .get → route.template = Template.parse collection →
    route.source = .computed .list r

theorem serves_of_mem_routes {r : Resource} {collection : String} (mem : route ∈ r.routes collection) :
    r.Serves collection route := by
  have apart : Template.parse (itemPath collection) ≠ Template.parse collection := fun same =>
    text_item_ne collection (by rw [← parse_itemPath, same])
  have spelled (path : String) : Template.parse (normalizePath path) = Template.parse path :=
    Template.parse_normalizePath path
  simp only [routes, List.mem_cons, List.not_mem_nil, or_false] at mem
  rcases mem with rfl | rfl | rfl | rfl | rfl
  · exact ⟨nofun, nofun, fun _ item => absurd (item.symm.trans (spelled _)) apart, fun _ _ => rfl⟩
  · exact ⟨nofun, nofun, fun _ _ => rfl, fun _ whole => absurd ((spelled _).symm.trans whole) apart⟩
  · exact ⟨fun _ => rfl, nofun, nofun, nofun⟩
  · exact ⟨nofun, fun _ => ⟨rfl, spelled _⟩, nofun, nofun⟩
  · exact ⟨nofun, nofun, nofun, nofun⟩

/-- A request for one item of a collection has its identifier in the last part of the path. -/
theorem exists_pathId {collection : String} (item : route.template = Template.parse (itemPath collection))
    (reached : route.template.matchPath path = some params) :
    ∃ part, (pathParts path.toList).getLast? = some part ∧ pathId params = unescape part := by
  rw [item, parse_itemPath] at reached
  obtain ⟨part, last, found⟩ := Template.exists_last_of_matchPath reached
  exact ⟨part, last, by rw [pathId, found, Option.getD_some]⟩

/-- A request that is matched with a route of a resource, in whatever state the backend is. A body with
members is answered with what was created, with an identifier that is minted for it and one time for both
stamps, or with what was replaced, with the identifier in the path and the time of the update; all other
members are those of the body. What is asked for is a compiled value, of which at most the identifier is
another. A list is counted, and keeps to its sizes. Where values cannot be generated that is the answer, and
a body of another kind is refused with nothing done. -/
theorem derivedRoutes_frame (b : Backend) (now : Instant)
    (derived : route ∈ derivedRoutes basePath listMin listMax document name)
    (reached : route.template.matchPath (RouteTable.withoutQuery path) = some params) (body : Option Json) :
    let collection := collectionPath basePath (noun document name)
    let stamp := Json.string now.milliText
    let last := (pathParts (RouteTable.withoutQuery path).toList).getLast?
    let answer := b.respond now route.source params body
    (route.method = .post → ∀ members, body = some (.object members) →
      ∃ id entropy data, (IdKind.ofNode document.resolvedRoot).Mints (b.store.issued + 1) id ∧
        answer.1 = { b with
          store := { b.store with issued := b.store.issued + 1, created := b.store.created + 1 }
          entropy } ∧
        Presents answer.2 (.object data) ∧
        Table.Sets members [("updatedAt", stamp), ("createdAt", stamp), ("id", id)] data) ∧
    (route.method = .put → ∀ members, body = some (.object members) →
      ∃ part data, last = some part ∧ answer.1 = { b with store := b.store.recordUpdate } ∧
        Presents answer.2 (.object data) ∧
        Table.Sets members [("updatedAt", stamp), ("id", .string (unescape part))] data) ∧
    (route.method = .get → route.template = Template.parse (itemPath collection) →
      let compiled := b.compiler.compile now document
      answer.1 = { b with compiler := compiled.1 } ∧
      (∀ fault, compiled.2 = .error fault → answer.2 = .error fault.toError) ∧
      ∀ value, compiled.2 = .ok value → ∃ part, last = some part ∧
        (∀ members, value = .object members → ∃ data, Presents answer.2 (.object data) ∧
          Table.Sets members [("id", .string (unescape part))] data) ∧
        ((∀ members, value ≠ .object members) → Presents answer.2 value)) ∧
    (route.method = .get → route.template = Template.parse collection →
      let plan : Plan Cipher := b.compiler.plan now document
      answer.1.store = b.store ∧
      ((∃ fault source, (generate plan document.root source).1 = .error fault ∧
          answer.2 = .error fault.toError) ∨
        ∃ response items, answer.2 = .ok response ∧ response.member? "data" = some (.array items) ∧
          response.member? "count" = some (.ofNat items.length) ∧
          Nat.min listMin listMax ≤ items.length ∧ items.length ≤ Nat.max listMin listMax ∧
          ∀ item ∈ items, ∃ source, (generate plan document.root source).1 = .ok item)) ∧
    (route.method = .post ∨ route.method = .put → ∀ value, body = some value →
      (∀ members, value ≠ .object members) →
        answer = (b, .error (.invalidBody ("expected a JSON object, got " ++ kindName value)))) := by
  let r := ofDocument document (noun document name) listMin listMax
  have serves : r.Serves (collectionPath basePath (noun document name)) route := serves_of_mem_routes derived
  dsimp only
  refine ⟨?create, ?replace, ?get, ?list, ?refused⟩
  case create =>
    rintro post members rfl
    obtain ⟨id, entropy, mints, answers⟩ := b.respond_create now r params members
    rw [serves.create post, answers]
    exact ⟨id, entropy, _, mints, rfl, presents_success _ _, sets_createdMembers id now members⟩
  case replace =>
    rintro put members rfl
    obtain ⟨source, item⟩ := serves.replace put
    obtain ⟨part, last, id⟩ := exists_pathId item reached
    rw [source, respond_replace, id]
    exact ⟨part, _, last, rfl, presents_success _ _, sets_replacedMembers _ now members⟩
  case get =>
    intro method item
    obtain ⟨part, last, id⟩ := exists_pathId item reached
    obtain ⟨kept, fails, succeeds⟩ := b.frame_get now r params body
    rw [id] at succeeds
    rw [serves.get method item]
    exact ⟨kept, fails, fun value given => ⟨part, last, succeeds value given⟩⟩
  case list =>
    intro method whole
    rw [serves.list method whole]
    exact b.frame_list now r params body ((Nat.min_le_left _ _).trans (Nat.le_max_left _ _))
  case refused =>
    rintro (post | put) value rfl other
    · rw [serves.create post]
      exact respond_of_not_object (.inl rfl) other
    · rw [(serves.replace put).1]
      exact respond_of_not_object (.inr rfl) other

/-- Pets, of which each has a number. -/
def petDocument : Schema.Document := .ofNode {
  title := some "Pet"
  properties := [("id", .ofKind .integer)] }

/-- A pet that is replaced keeps its name, and its identifier is the one in the path. -/
theorem derivedRoutes_frame_rex :
    ∃ route ∈ derivedRoutes "/api" 3 10 petDocument none, route.method = .put ∧
      ∃ params, route.template.matchPath (RouteTable.withoutQuery "/api/pets/no%201?full") = some params ∧
        ∃ data, Presents (Backend.respond { compiler := .ofConfig {} {} 0, entropy := .ofSeed 1 } ⟨0⟩
            route.source params (some (.object [("id", .null), ("name", .string "Rex")]))).2 (.object data) ∧
          Table.get? data "id" = some (.string "no 1") ∧ Table.get? data "name" = some (.string "Rex") ∧
          Table.get? data "createdAt" = none := by
  have called : noun petDocument none = "Pet" := by decide +kernel
  have routes : derivedRoutes "/api" 3 10 petDocument none =
      (ofDocument petDocument "Pet" 3 10).routes "/api/pets" := by
    rw [derivedRoutes, called, collectionPath_pet]
  let put : Route := { Route.ofPath .put (itemPath "/api/pets")
    (.computed .replace (ofDocument petDocument "Pet" 3 10)) with validation := some (bodyDocument petDocument) }
  have derived : put ∈ derivedRoutes "/api" 3 10 petDocument none :=
    routes ▸ .tail _ (.tail _ (.tail _ List.mem_cons_self))
  have item : put.template = [.literal "api", .literal "pets", .param "id"] :=
    (Template.parse_normalizePath _).trans (by decide +kernel)
  have reached : put.template.matchPath (RouteTable.withoutQuery "/api/pets/no%201?full") =
      some [("id", "no 1")] := by
    rw [item]
    decide +kernel
  obtain ⟨-, replaced, -⟩ := derivedRoutes_frame
    { compiler := .ofConfig {} {} 0, entropy := .ofSeed 1 } ⟨0⟩ derived reached
    (some (.object [("id", .null), ("name", .string "Rex")]))
  obtain ⟨part, data, last, -, presents, sets⟩ := replaced rfl _ rfl
  obtain rfl : "no%201".toList = part := Option.some.inj ((by decide +kernel : _ = _).symm.trans last)
  have decoded : unescape "no%201".toList = "no 1" := by decide +kernel
  refine ⟨put, derived, rfl, _, reached, data, presents, ?_, ?_, ?_⟩ <;> rw [sets.get?]
  · rw [decoded]
    rfl
  · rfl
  · rfl

end Resource

end MockApi
