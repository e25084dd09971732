import MockApi.Generation.Uses
import MockApi.Proofs.Generation.Reproduction
import MockApi.Proofs.Route.Derived
import MockApi.Proofs.Route.Table
import MockApi.Proofs.Session.Serving

/-!
# How route tables are put together

Compilers remember only what they prepared (`Compiler.sound_after`), so the routes of a definition do not
depend on what their compiler was used for. They are those derived for the schema, in their order, and
behind them the explicit ones in the order of their keys' first use; an explicit route stands in the place
of a derived one with its key (`Assembled`). What is refused is refused with the error of the schema, or
else of the first explicit route that has one (`Refused`).
-/

namespace MockApi

open Schema Generation

/-! ### Compilers in use -/

namespace Compiler

variable {capacity : Nat} {schemas : List Json} {c : Compiler}

theorem sound_apply {use_ : Use}
    (sound : c.library.Sound capacity schemas c.options.fingerprint)
    (known : ∀ schema ∈ use_.schema?, schema ∈ schemas) :
    (c.apply use_).library.Sound capacity schemas (c.apply use_).options.fingerprint := by
  cases use_ with
  | prepare now schema => exact sound.prepare (known schema rfl) now.millis.toNat
  | compile => exact sound
  | compileNode => exact sound
  | compileMany => exact sound
  | child => exact sound

/-- What a compiler remembers was read from the schemas that it prepared. -/
theorem sound_after {uses : List Use}
    (sound : c.library.Sound capacity schemas c.options.fingerprint)
    (known : uses.filterMap Use.schema? ⊆ schemas) :
    (c.after uses).library.Sound capacity schemas (c.after uses).options.fingerprint := by
  induction uses generalizing c with
  | nil => exact sound
  | cons first uses ih =>
    have here : ∀ schema ∈ first.schema?, schema ∈ schemas := fun schema prepared =>
      known (List.mem_filterMap.mpr ⟨first, List.mem_cons_self, prepared⟩)
    have later : uses.filterMap Use.schema? ⊆ schemas := fun schema mem => by
      obtain ⟨use_, used, prepared⟩ := List.mem_filterMap.mp mem
      exact known (List.mem_filterMap.mpr ⟨use_, List.mem_cons_of_mem _ used, prepared⟩)
    exact ih (sound_apply sound here) later

end Compiler

/-! ### Tables of two lists of routes -/

namespace RouteTable

variable {derived explicit : List Route} {t : RouteTable}

/-- The table has the keys of the derived routes in their order, and behind them those that only explicit
routes have, in the order of first use. Under each stands the last explicit route, or else the derived
one. -/
structure Assembled (derived explicit : List Route) (t : RouteTable) : Prop where
  distinct : (t.routes.map Route.key).Nodup
  order : t.routes.map Route.key = derived.map Route.key ++
    ((explicit.map Route.key).filter (· ∉ derived.map Route.key)).eraseDups
  owner : ∀ route ∈ t.routes,
    (lastUnder explicit route.key).or (derived.find? (·.key = route.key)) = some route

/-- Of routes with different keys the last with a key is the first with it. -/
theorem lastUnder_of_nodup (distinct : (derived.map Route.key).Nodup) (key : Method × String) :
    lastUnder derived key = derived.find? (·.key = key) := by
  induction derived with
  | nil => rfl
  | cons route derived ih =>
    obtain ⟨fresh, distinct⟩ := List.nodup_cons.mp distinct
    rw [lastUnder, List.reverse_cons, List.find?_append, ← lastUnder, ih distinct, List.find?_cons]
    by_cases same : route.key = key
    · have absent : derived.find? (·.key = key) = none := by
        rw [List.find?_eq_none]
        intro other mem equal
        exact fresh (List.mem_map.mpr ⟨other, mem, (of_decide_eq_true equal).trans same.symm⟩)
      simp [same, absent]
    · simp [same]

theorem eraseDups_of_nodup {keys : List (Method × String)} (distinct : keys.Nodup) :
    keys.eraseDups = keys := by
  induction keys with
  | nil => rfl
  | cons key keys ih =>
    obtain ⟨fresh, distinct⟩ := List.nodup_cons.mp distinct
    have others : keys.filter (fun other => !other == key) = keys :=
      List.filter_eq_self.mpr fun other mem => by
        simpa using fun same : other = key => fresh (same ▸ mem)
    rw [List.eraseDups_cons, others, ih distinct]

theorem assembled_insertAll (distinct : (derived.map Route.key).Nodup) (explicit : List Route) :
    Assembled derived explicit ((insertAll {} derived).insertAll explicit) := by
  have represents : Represents (derived ++ explicit) ((insertAll {} derived).insertAll explicit) :=
    (Represents.empty.insertAll derived).insertAll explicit
  refine ⟨represents.distinct, ?_, fun route mem => ?_⟩
  · rw [represents.order, List.map_append, List.eraseDups_append, eraseDups_of_nodup distinct]
    have others : (explicit.map Route.key).removeAll (derived.map Route.key) =
        (explicit.map Route.key).filter (· ∉ derived.map Route.key) :=
      List.filter_congr fun key _ => by rw [List.elem_eq_mem, decide_not]
    rw [others]
  · have held := represents.last route.key
    rw [held?_key represents.distinct mem, lastUnder, List.reverse_append, List.find?_append] at held
    rw [← lastUnder_of_nodup distinct]
    exact held.symm

end RouteTable

namespace Session

variable {config : Config} {definition : Definition}

/-- What a definition is refused with. -/
inductive Refused (definition : Definition) (e : Error) : Prop
  | schema {schema : Json} (given : definition.schema = some schema)
      (refused : Document.ofJson schema = .error e)
  | route {before after : List RouteDefinition} {refused : RouteDefinition}
      (readable : ∀ schema ∈ definition.schema, ∃ document, Document.ofJson schema = .ok document)
      (listed : definition.routes = before ++ refused :: after)
      (accepted : ∀ d ∈ before, ∃ route, d.toRoute = .ok route)
      (fails : refused.toRoute = .error e)

/-- The routes derived for a definition, and their keys. -/
inductive Derived (config : Config) (definition : Definition) :
    List Route → List (Method × String) → Prop
  | nothing (absent : definition.schema = none) : Derived config definition [] []
  | resource {schema : Json} {document : Document} (given : definition.schema = some schema)
      (read : Document.ofJson schema = .ok document) :
      Derived config definition
        (Resource.derivedRoutes config.server.basePath config.generation.listMin
          config.generation.listMax document config.server.resourceName)
        (Resource.derivedKeys (Resource.collectionPath config.server.basePath
          (Resource.noun document config.server.resourceName)))

theorem Derived.map_key {derived : List Route} {keys : List (Method × String)}
    (made : Derived config definition derived keys) : derived.map Route.key = keys ∧ keys.Nodup := by
  cases made with
  | nothing => exact ⟨rfl, List.nodup_nil⟩
  | resource given read => exact ⟨Resource.map_key_routes _ _, Resource.derivedKeys_nodup _⟩

/-- A definition is refused, or its table is put together from the derived and the explicit routes. -/
theorem tableOf_cases (config : Config) (definition : Definition) :
    (∃ e, Refused definition e ∧ tableOf config definition = .error e) ∨
    ∃ derived keys explicit, Derived config definition derived keys ∧
      List.Forall₂ (fun d route => d.toRoute = .ok route) definition.routes explicit ∧
      tableOf config definition = .ok ((RouteTable.insertAll {} derived).insertAll explicit) := by
  unfold tableOf
  cases given : definition.schema with
  | none =>
    rcases RouteDefinition.toRoutes_cases definition.routes with
      ⟨explicit, made, each⟩ | ⟨before, refused, after, e, listed, accepted, fails, made⟩
    · exact .inr ⟨[], [], explicit, .nothing given, each, by rw [made]; rfl⟩
    · have readable : ∀ schema ∈ definition.schema, ∃ document, Document.ofJson schema = .ok document := by
        simp [given]
      exact .inl ⟨e, .route readable listed accepted fails, by rw [made]; rfl⟩
  | some schema =>
    cases read : Document.ofJson schema with
    | error e => exact .inl ⟨e, .schema given read, by simp only [read]⟩
    | ok document =>
      simp only [read]
      rcases RouteDefinition.toRoutes_cases definition.routes with
        ⟨explicit, made, each⟩ | ⟨before, refused, after, e, listed, accepted, fails, made⟩
      · exact .inr ⟨_, _, explicit, .resource given read, each, by rw [made]; rfl⟩
      · have readable : ∀ schema ∈ definition.schema,
            ∃ document, Document.ofJson schema = .ok document := by
          simp [given, read]
        exact .inl ⟨e, .route readable listed accepted fails, by rw [made]; rfl⟩

theorem tableOf_of_refused {e : Error} (refused : Refused definition e) :
    tableOf config definition = .error e := by
  unfold tableOf
  cases refused with
  | schema given refused => simp only [given, refused]
  | route readable listed accepted fails =>
    have made : RouteDefinition.toRoutes definition.routes = .error e := by
      rw [listed]
      exact RouteDefinition.toRoutes_of_refused accepted fails
    cases given : definition.schema with
    | none => simp only [made, Except.map]
    | some schema =>
      obtain ⟨document, read⟩ := readable schema given
      simp only [read, made, Except.map]

/-- Whatever its compiler was used for before, a route table is made exactly of the definitions that are
not refused: with the schema's error, or else that of the first explicit route that has one. It has the
keys of the derived routes in their order, which are five different ones if there is a schema, and behind
them the other keys of the explicit routes in the order of their first use. The last explicit route with
a key holds it, and the derived one only if there is none. -/
theorem routeTable_assembled (config : Config) (generation : Config.Generation)
    (caching : Config.Caching) (entropy : UInt64) (uses : List Compiler.Use) (now : Instant)
    (definition : Definition)
    (apart : KeysApart (uses.filterMap Compiler.Use.schema? ++ definition.schema.toList)
      (Options.ofConfig generation).fingerprint) :
    let compiler := (Compiler.ofConfig generation caching entropy).after uses
    let result := (routeTable config compiler now definition).2
    (∀ e, result = .error e ↔ Refused definition e) ∧
      (∀ table, result = .ok table →
        ∃ derived keys explicit, Derived config definition derived keys ∧
          derived.map Route.key = keys ∧ keys.Nodup ∧
          List.Forall₂ (fun d route => d.toRoute = .ok route) definition.routes explicit ∧
          table.Assembled derived explicit) := by
  intro compiler result
  have sound : compiler.library.Sound _ _ compiler.options.fingerprint :=
    Compiler.sound_after (Library.Sound.empty caching.capacity (caching.ttl.map Duration.millis) _ _)
      (List.subset_append_left _ definition.schema.toList)
  have options : compiler.options = Options.ofConfig generation := Compiler.options_after _ uses
  have answered : result = tableOf config definition :=
    routeTable_eq sound (options ▸ apart) (List.subset_append_right _ _) now
  rw [answered]
  rcases tableOf_cases config definition with
    ⟨e, refused, failed⟩ | ⟨derived, keys, explicit, made, each, table⟩
  · rw [failed]
    refine ⟨fun e' => ⟨fun same => Except.error.inj same ▸ refused, fun other => ?_⟩, nofun⟩
    exact failed.symm.trans (tableOf_of_refused other)
  · refine ⟨fun e => ⟨fun failed => ?_, fun refused => tableOf_of_refused refused⟩, fun t same => ?_⟩
    · cases table.symm.trans failed
    · obtain ⟨own, distinct⟩ := made.map_key
      obtain rfl := Except.ok.inj (table.symm.trans same)
      exact ⟨derived, keys, explicit, made, own, distinct, each,
        RouteTable.assembled_insertAll (own ▸ distinct) explicit⟩

/-- Pets, with a list of their own under another spelling of its path, and one route more. -/
def ownPets : Definition where
  schema := some (.ofMembers [("type", .string "object"), ("title", .string "Pet")])
  routes := [{ path := "/health" }, { path := "//api/pets/", statusCode := some 203 }]

theorem routeTable_assembled_ownPets :
    let compiler := (Compiler.ofConfig {} {} 0).after [.child, .prepare ⟨0⟩ (.bool true)]
    let result := (routeTable (.forTesting 3000) compiler ⟨1⟩ ownPets).2
    ∃ table derived keys explicit, result = .ok table ∧
      Derived (.forTesting 3000) ownPets derived keys ∧ derived.map Route.key = keys ∧ keys.Nodup ∧
      List.Forall₂ (fun d route => d.toRoute = .ok route) ownPets.routes explicit ∧
      table.Assembled derived explicit := by
  intro compiler result
  have texts : ([Json.bool true] ++ ownPets.schema.toList).map Json.compact |>.Nodup := by
    decide +kernel
  obtain ⟨-, assembled⟩ := routeTable_assembled (.forTesting 3000) {} {} 0
    [.child, .prepare ⟨0⟩ (.bool true)] ⟨1⟩ ownPets (keysApart_of_nodup texts _)
  cases made : result with
  | error e =>
    have accepted : result.isOk = true := by
      decide +kernel
    rw [made] at accepted
    cases accepted
  | ok table =>
    obtain ⟨derived, keys, explicit, parts⟩ := assembled table made
    exact ⟨table, derived, keys, explicit, rfl, parts⟩

end Session

end MockApi
