import MockApi.Proofs.Route.Matching
import MockApi.Proofs.Session.Assembly

/-!
# Explicit routes over derived ones

An explicit route takes the place of a derived one if both have the same key, and so if it calls its
parameters as the derived one does. One that fits the same requests and calls them otherwise stands behind
the derived one, which is as specific and goes first (`routeTable_overrides_iff`).
-/

namespace MockApi

namespace Route

variable {a b : Route} {path : String}

/-- What a route fits depends on its key alone. -/
theorem Fits.of_key_eq (fits : a.Fits path) (same : b.key = a.key) : b.Fits path := by
  rwa [Fits, (key_eq_key_iff.mp same).2]

end Route

namespace Resource

open Route

variable {resource : Resource} {collection path : String} {a b : Route}

/-- Of the routes of a resource with one method only one fits a request. -/
theorem key_eq_of_fits (memA : a ∈ resource.routes collection) (memB : b ∈ resource.routes collection)
    (method : a.method = b.method) (fitsA : a.Fits path) (fitsB : b.Fits path) : a.key = b.key := by
  have lengths : a.template.length = b.template.length :=
    (fits_iff.mp fitsA).length_eq.trans (fits_iff.mp fitsB).length_eq.symm
  refine key_eq_key_iff.mpr ⟨method, ?_⟩
  rcases template_of_mem_routes memA with whole | item <;>
    rcases template_of_mem_routes memB with whole' | item'
  · rw [whole, whole']
  · rw [whole, item', parse_itemPath, List.length_append, List.length_singleton] at lengths
    omega
  · rw [item, whole', parse_itemPath, List.length_append, List.length_singleton] at lengths
    omega
  · rw [item, item']

end Resource

namespace RouteTable

variable {derived explicit : List Route} {t : RouteTable} {route own : Route} {path : String}

namespace Assembled

theorem mem_or_mem (assembled : Assembled derived explicit t) (mem : route ∈ t.routes) :
    route ∈ explicit ∨ route ∈ derived := by
  have owner := assembled.owner route mem
  cases last : lastUnder explicit route.key with
  | some o =>
    rw [last, Option.some_or] at owner
    cases owner
    exact .inl (List.mem_reverse.mp (List.mem_of_find?_eq_some last))
  | none =>
    rw [last, Option.none_or] at owner
    exact .inr (List.mem_of_find?_eq_some owner)

/-- Each key that was used is that of a route of the table. -/
theorem exists_holder (assembled : Assembled derived explicit t)
    (used : route ∈ derived ∨ route ∈ explicit) : ∃ holder ∈ t.routes, holder.key = route.key := by
  have listed : route.key ∈ t.routes.map Route.key := by
    rw [assembled.order, List.mem_append, List.mem_eraseDups, List.mem_filter]
    rcases used with mem | mem
    · exact .inl (List.mem_map_of_mem mem)
    · by_cases known : route.key ∈ derived.map Route.key
      · exact .inl known
      · exact .inr ⟨List.mem_map_of_mem mem, by simpa using known⟩
  exact List.mem_map.mp listed

/-- An explicit route that the table has is the last with its key. -/
theorem lastUnder_of_mem (assembled : Assembled derived explicit t) (listed : route ∈ explicit)
    (mem : route ∈ t.routes) : lastUnder explicit route.key = some route := by
  have owner := assembled.owner route mem
  cases last : lastUnder explicit route.key with
  | some o =>
    rw [last, Option.some_or] at owner
    exact owner
  | none =>
    have absent := List.find?_eq_none.mp last route (List.mem_reverse.mpr listed)
    simp at absent

/-- The last explicit route with a key is in the table. -/
theorem mem_of_lastUnder (assembled : Assembled derived explicit t)
    (last : lastUnder explicit route.key = some route) : route ∈ t.routes := by
  have listed : route ∈ explicit := List.mem_reverse.mp (List.mem_of_find?_eq_some last)
  obtain ⟨holder, mem, same⟩ := assembled.exists_holder (.inr listed)
  have owner := assembled.owner holder mem
  rw [same, last, Option.some_or] at owner
  cases owner
  exact mem

/-- What stands before a route with a derived key has a derived key. -/
theorem key_mem_of_before {before after : List Route}
    (assembled : Assembled derived explicit t) (whole : t.routes = before ++ own :: after)
    (known : own.key ∈ derived.map Route.key) (mem : route ∈ before) :
    route.key ∈ derived.map Route.key := by
  have order := assembled.order
  rw [whole, List.map_append, List.map_cons] at order
  rcases List.append_eq_append_iff.mp order with ⟨rest, longer, -⟩ | ⟨rest, -, behind⟩
  · rw [longer]
    exact List.mem_append_left _ (List.mem_map_of_mem mem)
  · have fresh : own.key ∈ ((explicit.map Route.key).filter (· ∉ derived.map Route.key)).eraseDups := by
      rw [behind]
      exact List.mem_append_right _ List.mem_cons_self
    rw [List.mem_eraseDups, List.mem_filter] at fresh
    exact absurd known (of_decide_eq_true fresh.2)

/-- Where one derived route alone fits a request, an explicit one with its method that is as specific
serves the request exactly if it has its template, is the last explicit one to have it, and no explicit
one that fits is more specific. -/
theorem serves_iff (assembled : Assembled derived explicit t) (derives : own ∈ derived)
    (alone : ∀ other ∈ derived, other.method = own.method → other.Fits path → other.key = own.key)
    (listed : route ∈ explicit) (method : route.method = own.method) (fits : route.Fits path)
    (fitsOwn : own.Fits path) (equal : route.template.specificity = own.template.specificity) :
    (t.matchRequest route.method path).map (·.route) = some route ↔
      route.template = own.template ∧ lastUnder explicit route.key = some route ∧
        ∀ other ∈ explicit, other.method = route.method → other.Fits path →
          other.template.specificity ≤ route.template.specificity := by
  -- A derived key of a route that fits is the key of the one derived route that does.
  have key_eq {other : Route} (known : other.key ∈ derived.map Route.key)
      (sameMethod : other.method = route.method) (fitsOther : other.Fits path) :
      other.key = own.key := by
    obtain ⟨d, mem, same⟩ := List.mem_map.mp known
    rw [← same]
    exact alone d mem ((Route.key_eq_key_iff.mp same).1.trans (sameMethod.trans method))
      (fitsOther.of_key_eq same)
  rw [map_route_eq_some_iff]
  constructor
  · rintro ⟨before, after, whole, -, -, less, atMost⟩
    have atMost_of_mem {other : Route} (mem : other ∈ t.routes) (sameMethod : other.method = route.method)
        (fitsOther : other.Fits path) :
        other.template.specificity ≤ route.template.specificity := by
      rw [whole, List.mem_append, List.mem_cons] at mem
      rcases mem with early | rfl | late
      · exact (less other early sameMethod fitsOther).le
      · exact Nat.le_refl _
      · exact atMost other late sameMethod fitsOther
    refine ⟨?_, assembled.lastUnder_of_mem listed (by simp [whole]), fun other mem sameMethod fitsOther => ?_⟩
    · obtain ⟨holder, mem, same⟩ := assembled.exists_holder (.inl derives)
      obtain ⟨holderMethod, holderTemplate⟩ := Route.key_eq_key_iff.mp same
      have own_le : route.template.specificity ≤ holder.template.specificity :=
        (holderTemplate ▸ equal).le
      rw [whole, List.mem_append, List.mem_cons] at mem
      rcases mem with early | rfl | late
      · have lower := less holder early (holderMethod.trans method.symm) (fitsOwn.of_key_eq same)
        omega
      · exact holderTemplate
      · obtain ⟨between, rest, rfl⟩ := List.append_of_mem late
        have known : holder.key ∈ derived.map Route.key := same ▸ List.mem_map_of_mem derives
        have split : t.routes = (before ++ route :: between) ++ holder :: rest := by
          rw [whole, List.append_assoc, List.cons_append]
        have derivedKey := assembled.key_mem_of_before split known (by simp : route ∈ _)
        exact (Route.key_eq_key_iff.mp (key_eq derivedKey rfl fits)).2
    · obtain ⟨holder, inside, same⟩ := assembled.exists_holder (.inr mem)
      obtain ⟨holderMethod, holderTemplate⟩ := Route.key_eq_key_iff.mp same
      rw [← holderTemplate]
      exact atMost_of_mem inside (holderMethod.trans sameMethod) (fitsOther.of_key_eq same)
  · rintro ⟨template, last, most⟩
    have same : route.key = own.key := Route.key_eq_key_iff.mpr ⟨method, template⟩
    have known : route.key ∈ derived.map Route.key := same ▸ List.mem_map_of_mem derives
    obtain ⟨before, after, whole⟩ := List.append_of_mem (assembled.mem_of_lastUnder last)
    refine ⟨before, after, whole, rfl, fits, fun other early sameMethod fitsOther => ?_,
      fun other late sameMethod fitsOther => ?_⟩
    · have equalKeys : other.key = route.key :=
        (key_eq (assembled.key_mem_of_before whole known early) sameMethod fitsOther).trans same.symm
      have distinct := assembled.distinct
      rw [whole, List.map_append, List.map_cons] at distinct
      exact absurd equalKeys ((List.nodup_append.mp distinct).2.2 _ (List.mem_map_of_mem early) _
        List.mem_cons_self)
    · have inside : other ∈ t.routes := by simp [whole, late]
      rcases assembled.mem_or_mem inside with mem | mem
      · exact most other mem sameMethod fitsOther
      · have ownKey := key_eq (List.mem_map_of_mem mem) sameMethod fitsOther
        rw [(Route.key_eq_key_iff.mp ownKey).2, template]

end Assembled

end RouteTable

namespace Resource

open RouteTable

/-- An explicit route that has the method of a derived one and fits the same requests serves one of them
exactly if it has the template of the derived one, is the last explicit route to have it, and no other
explicit route that fits is more specific. -/
theorem serves_iff {basePath path : String} {listMin listMax : Nat} {document : Schema.Document}
    {name : Option String} {explicit : List Route} {derived route : Route}
    (derives : derived ∈ derivedRoutes basePath listMin listMax document name)
    (listed : route ∈ explicit) (method : route.method = derived.method)
    (alike : ∀ path, route.Fits path ↔ derived.Fits path) (fits : route.Fits path) :
    let table := (insertAll {} (derivedRoutes basePath listMin listMax document name)).insertAll explicit
    (table.matchRequest route.method path).map (·.route) = some route ↔
      route.template = derived.template ∧ lastUnder explicit route.key = some route ∧
        ∀ other ∈ explicit, other.method = route.method → other.Fits path →
          other.template.specificity ≤ route.template.specificity := by
  have distinct : ((derivedRoutes basePath listMin listMax document name).map Route.key).Nodup := by
    rw [derivedRoutes, map_key_routes]
    exact derivedKeys_nodup _
  have equal : route.template.specificity = derived.template.specificity :=
    Nat.le_antisymm (Route.specificity_le ((alike path).mp fits) fun path => (alike path).mpr)
      (Route.specificity_le fits fun path => (alike path).mp)
  exact (assembled_insertAll distinct explicit).serves_iff derives
    (fun other mem same fitsOther => key_eq_of_fits mem derives same fitsOther ((alike path).mp fits))
    listed method fits ((alike path).mp fits) equal

end Resource

namespace Session

open RouteTable

/-- The table of a session with a schema and explicit routes. -/
theorem routeTable_of_prepared {config : Config} {compiler : Compiler} {now : Instant}
    {definition : Definition} {schema : Json} {prepared : Schema.Prepared} {explicit : List Route}
    (given : definition.schema = some schema)
    (prepares : (compiler.prepare now schema).2 = .ok prepared)
    (read : RouteDefinition.toRoutes definition.routes = .ok explicit) :
    (routeTable config compiler now definition).2 =
      .ok ((insertAll {} (Resource.derivedRoutes config.server.basePath config.generation.listMin
        config.generation.listMax prepared.document config.server.resourceName)).insertAll explicit) := by
  rcases result : compiler.prepare now schema with ⟨after, outcome⟩
  rw [result] at prepares
  cases prepares
  simp only [routeTable, given, result, read]
  rfl

/-- In the table of a session with a schema, an explicit route that has the method of a derived one and
fits the same requests serves them exactly if it calls its parameters as the derived one does, is the last
explicit route to do so, and no other explicit route that fits has more literal segments. -/
theorem routeTable_overrides_iff (config : Config) (compiler : Compiler) (now : Instant)
    (definition : Definition) (schema : Json) (prepared : Schema.Prepared) (explicit : List Route)
    (given : definition.schema = some schema)
    (prepares : (compiler.prepare now schema).2 = .ok prepared)
    (read : RouteDefinition.toRoutes definition.routes = .ok explicit) :
    ∃ table, (routeTable config compiler now definition).2 = .ok table ∧
      ∀ derived ∈ Resource.derivedRoutes config.server.basePath config.generation.listMin
        config.generation.listMax prepared.document config.server.resourceName,
      ∀ route ∈ explicit, route.method = derived.method →
        (∀ path, route.Fits path ↔ derived.Fits path) →
        ∀ path, route.Fits path →
          ((table.matchRequest route.method path).map (·.route) = some route ↔
            route.template = derived.template ∧ lastUnder explicit route.key = some route ∧
              ∀ other ∈ explicit, other.method = route.method → other.Fits path →
                other.template.specificity ≤ route.template.specificity) :=
  ⟨_, routeTable_of_prepared given prepares read, fun _ derives _ listed method alike _ fits =>
    Resource.serves_iff derives listed method alike fits⟩

/-! ### Pets with routes of their own -/

def petSchema : Json := .ofMembers [("type", .string "object"), ("title", .string "Pet")]

/-- Pets, with a route of their own for an item, under one of its spellings, and one for new pets. -/
def petsUnder (path : String) : Definition where
  schema := some petSchema
  routes := [{ path, statusCode := some 203 }, { path := "/api/pets/new", statusCode := some 418 }]

/-- The routes that are defined so. -/
def petRoute (path : String) : Route :=
  { Route.ofPath .get path (.literal .null) with status := 203 }

def newPets : Route := { Route.ofPath .get "/api/pets/new" (.literal .null) with status := 418 }

/-- A compiler that has prepared nothing yet. -/
def freshCompiler : Compiler := .ofConfig {} {} 0

/-- The route that is derived for one pet. -/
theorem exists_item_pet :
    ∃ prepared, (freshCompiler.prepare ⟨0⟩ petSchema).2 = .ok prepared ∧
      ∃ item ∈ Resource.derivedRoutes "/api" 3 10 prepared.document none, item.method = .get ∧
        item.template = [.literal "api", .literal "pets", .param "id"] := by
  have titled : (freshCompiler.prepare ⟨0⟩ petSchema).2.toOption.map
      (fun prepared => Resource.noun prepared.document none) = some "Pet" := by decide +kernel
  obtain ⟨prepared, prepares, noun⟩ := Option.map_eq_some_iff.mp titled
  refine ⟨prepared, ?_, ?_⟩
  · cases outcome : (freshCompiler.prepare ⟨0⟩ petSchema).2 with
    | error e =>
      rw [outcome] at prepares
      cases prepares
    | ok made =>
      rw [outcome] at prepares
      cases prepares
      rfl
  · rw [Resource.derivedRoutes, noun, Resource.collectionPath_pet]
    exact ⟨_, List.mem_cons_of_mem _ List.mem_cons_self, rfl,
      (Template.parse_normalizePath _).trans (by decide +kernel)⟩

theorem routeTable_overrides_iff_respelled :
    ∃ table, (routeTable {} freshCompiler ⟨0⟩ (petsUnder "//api/pets/:id/")).2 = .ok table ∧
      (table.matchRequest .get "/api/pets/7?full").map (·.route) =
        some (petRoute "//api/pets/:id/") := by
  obtain ⟨prepared, prepares, item, derives, method, template⟩ := exists_item_pet
  obtain ⟨table, built, overrides⟩ := routeTable_overrides_iff {} freshCompiler ⟨0⟩
    (petsUnder "//api/pets/:id/") petSchema prepared [petRoute "//api/pets/:id/", newPets] rfl prepares
    rfl
  have own : (petRoute "//api/pets/:id/").template = item.template := by
    rw [template]
    decide +kernel
  refine ⟨table, built, (overrides item derives _ List.mem_cons_self method.symm
    (fun path => by rw [Route.Fits, own, Route.Fits]) _ (by decide +kernel)).mpr ⟨own, ?_, ?_⟩⟩
  · have other : newPets.key ≠ (petRoute "//api/pets/:id/").key := by decide +kernel
    simp [lastUnder, other]
  · intro other mem _ fits
    rcases List.mem_cons.mp mem with rfl | mem
    · exact Nat.le_refl _
    · obtain rfl := List.mem_singleton.mp mem
      exact absurd fits (by decide +kernel)

/-- An explicit route that calls the parameter of a derived one otherwise does not serve its requests. -/
theorem routeTable_keeps_renamed :
    ∃ prepared table, (freshCompiler.prepare ⟨0⟩ petSchema).2 = .ok prepared ∧
      (routeTable {} freshCompiler ⟨0⟩ (petsUnder "/api/pets/:petId")).2 = .ok table ∧
      ∃ derived ∈ Resource.derivedRoutes "/api" 3 10 prepared.document none,
        derived.method = (petRoute "/api/pets/:petId").method ∧
        (∀ path, (petRoute "/api/pets/:petId").Fits path ↔ derived.Fits path) ∧
        (petRoute "/api/pets/:petId").Fits "/api/pets/7" ∧
        (table.matchRequest .get "/api/pets/7").map (·.route) ≠ some (petRoute "/api/pets/:petId") := by
  obtain ⟨prepared, prepares, item, derives, method, template⟩ := exists_item_pet
  have renamed : (petRoute "/api/pets/:petId").template =
      [.literal "api", .literal "pets", .param "petId"] := by decide +kernel
  have alike (path : String) : (petRoute "/api/pets/:petId").Fits path ↔ item.Fits path :=
    Route.fits_congr (by rw [renamed, template]; rfl) path
  have fits : (petRoute "/api/pets/:petId").Fits "/api/pets/7" := by decide +kernel
  refine ⟨prepared, _, prepares, routeTable_of_prepared rfl prepares rfl, item, derives, method, alike,
    fits, fun served => ?_⟩
  have same := ((Resource.serves_iff derives List.mem_cons_self method.symm alike fits).mp served).1
  rw [renamed, template] at same
  exact absurd same (by decide)

end Session

end MockApi
