import Mathlib.Data.List.Forall2
import MockApi.Proofs.Route.Template
import MockApi.Route.Definition
import MockApi.Route.Resource

/-!
# Routes that are derived and routes that users define

Whatever the base path and the noun, the template of an item is that of its collection and one parameter
more (`parse_itemPath`). The five routes that are derived for a resource therefore have five keys
(`derivedKeys_nodup`). A list of definitions gives one route for each, or is refused with the error of the first one that
is refused (`toRoutes_cases`). What such a route answers is fixed or generated.
-/

namespace MockApi

theorem Route.key_of_path {route : Route} {path : String} (spelled : route.path = normalizePath path) :
    route.key = (route.method, (Template.parse path).text) := by
  rw [key, template, spelled, Template.parse_normalizePath]

namespace Resource

open Route

/-- The keys of the routes that are derived for a collection, in their order. -/
def derivedKeys (collection : String) : List (Method × String) :=
  let whole := Template.parse collection
  let item : Template := whole ++ [.param "id"]
  [(.get, whole.text), (.get, item.text), (.post, whole.text), (.put, item.text), (.delete, item.text)]

theorem parse_itemPath (collection : String) :
    Template.parse (itemPath collection) = Template.parse collection ++ [.param "id"] := by
  have behind : (itemPath collection).toList = collection.toList ++ '/' :: "\x7bid\x7d".toList := by
    simp [itemPath]
  have last : (Text.splitOn '/' "\x7bid\x7d".toList).filter (!·.isEmpty) = ["\x7bid\x7d".toList] := by
    decide
  have read : Segment.parse "\x7bid\x7d".toList = .param "id" := by
    decide
  rw [Template.parse, pathParts, behind, Text.splitOn_append_separator, List.filter_append, last,
    List.map_append, List.map_singleton, read]
  rfl

theorem map_key_routes (resource : Resource) (collection : String) :
    (resource.routes collection).map Route.key = derivedKeys collection := by
  simp only [derivedKeys, ← parse_itemPath]
  unfold routes
  repeat rw [List.map_cons, key_of_path rfl]
  rfl

/-- A route of a resource is one of the collection or of an item. -/
theorem template_of_mem_routes {resource : Resource} {collection : String} {route : Route}
    (mem : route ∈ resource.routes collection) :
    route.template = Template.parse collection ∨ route.template = Template.parse (itemPath collection) := by
  unfold routes at mem
  simp only [List.mem_cons, List.not_mem_nil, or_false] at mem
  rcases mem with rfl | rfl | rfl | rfl | rfl
  · exact .inl (Template.parse_normalizePath _)
  · exact .inr (Template.parse_normalizePath _)
  · exact .inl (Template.parse_normalizePath _)
  · exact .inr (Template.parse_normalizePath _)
  · exact .inr (Template.parse_normalizePath _)

/-- The item of a collection is not the collection. -/
theorem text_item_ne (collection : String) :
    (Template.parse collection ++ [.param "id"] : Template).text ≠ (Template.parse collection).text := by
  rw [← parse_itemPath]
  intro same
  have lengths := congrArg List.length (Template.text_parse_inj.mp same)
  rw [parse_itemPath, List.length_append, List.length_singleton] at lengths
  omega

theorem derivedKeys_nodup (collection : String) : (derivedKeys collection).Nodup := by
  simp [derivedKeys, (text_item_ne collection).symm]

theorem slug_pet : Noun.slug "Pet" = "pets" := by
  have words : Noun.words "Pet" = ["pet"] := by decide +kernel
  have regular : Noun.irregularPlural "pet" = none := by decide +kernel
  have ending : Noun.endingOf (Text.lower "pet") = (0, "s") := by decide +kernel
  have inhabited : (Text.lower "pet").isEmpty = false := by decide +kernel
  have quiet : Noun.isShouting "pet" = false := by
    rw [Noun.isShouting, String.any, String.contains_bool_eq, String.any, String.contains_bool_eq]
    decide +kernel
  have small : Noun.matchEnding "pet" "s" = "s" := by
    rw [Noun.matchEnding, Noun.shoutsEnding, quiet]
    rfl
  simp only [Noun.slug, words, Noun.pluralizeLast, Text.joinWith, Noun.pluralize, regular,
    Noun.regularPlural, ending, inhabited, small, Bool.false_eq_true, if_false, Option.getD_none]
  rfl

theorem collectionPath_pet : collectionPath "/api" "Pet" = "/api/pets" := by
  have base : trimSlashes "/api" ++ "/" = "/api/" := by decide +kernel
  rw [collectionPath, base, slug_pet]
  rfl

end Resource

end MockApi

namespace MockApi

namespace RouteDefinition

variable {definitions : List RouteDefinition} {e : Error}

/-- All definitions are accepted, or there is a first one that is refused. -/
theorem toRoutes_cases (definitions : List RouteDefinition) :
    (∃ routes, toRoutes definitions = .ok routes ∧
      List.Forall₂ (fun d route => d.toRoute = .ok route) definitions routes) ∨
    (∃ before refused after e, definitions = before ++ refused :: after ∧
      (∀ d ∈ before, ∃ route, d.toRoute = .ok route) ∧ refused.toRoute = .error e ∧
      toRoutes definitions = .error e) := by
  induction definitions with
  | nil => exact .inl ⟨[], rfl, .nil⟩
  | cons d definitions ih =>
    have unfolded : toRoutes (d :: definitions) =
        d.toRoute.bind fun route => (toRoutes definitions).bind fun routes => .ok (route :: routes) :=
      List.mapM_cons
    rw [unfolded]
    cases first : d.toRoute with
    | error e => exact .inr ⟨[], d, definitions, e, rfl, by simp, first, rfl⟩
    | ok route =>
      rcases ih with ⟨routes, made, each⟩ | ⟨before, refused, after, e, rfl, accepted, fails, made⟩
      · exact .inl ⟨route :: routes, by rw [made]; rfl, .cons first each⟩
      · refine .inr ⟨d :: before, refused, after, e, rfl, ?_, fails, by rw [made]; rfl⟩
        intro other mem
        rcases List.mem_cons.mp mem with rfl | mem
        · exact ⟨route, first⟩
        · exact accepted other mem

/-- Every route comes from a definition. -/
theorem exists_definition {routes : List Route} {route : Route}
    (each : List.Forall₂ (fun d route => d.toRoute = .ok route) definitions routes)
    (mem : route ∈ routes) : ∃ d ∈ definitions, d.toRoute = .ok route := by
  induction each with
  | nil => cases mem
  | cons first _ ih =>
    rcases List.mem_cons.mp mem with rfl | mem
    · exact ⟨_, List.mem_cons_self, first⟩
    · obtain ⟨d, inside, made⟩ := ih mem
      exact ⟨d, List.mem_cons_of_mem _ inside, made⟩

/-- Only one definition is the first that is refused. -/
theorem toRoutes_of_refused {before after : List RouteDefinition} {refused : RouteDefinition}
    (accepted : ∀ d ∈ before, ∃ route, d.toRoute = .ok route) (fails : refused.toRoute = .error e) :
    toRoutes (before ++ refused :: after) = .error e := by
  induction before with
  | nil =>
    rw [List.nil_append, toRoutes, List.mapM_cons, fails]
    rfl
  | cons d before ih =>
    obtain ⟨route, first⟩ := accepted d List.mem_cons_self
    have rest := ih fun other mem => accepted other (List.mem_cons_of_mem _ mem)
    rw [toRoutes] at rest
    rw [List.cons_append, toRoutes, List.mapM_cons, first, rest]
    rfl

theorem source_of_toRoute {d : RouteDefinition} {route : Route} (made : d.toRoute = .ok route) :
    d.source = .ok route.source := by
  unfold toRoute at made
  simp only [bind, Except.bind, pure, Except.pure, throw, throwThe, MonadExceptOf.throw] at made
  repeat' split at made
  all_goals
    cases made
    try assumption

/-- What a definition answers is fixed or generated, not computed. -/
theorem source_cases {d : RouteDefinition} {source : ResponseSource} (given : d.source = .ok source) :
    (∃ value, source = .literal value) ∨ ∃ document, source = .generated document := by
  unfold RouteDefinition.source at given
  split at given
  · rename_i schema _
    cases read : Schema.Document.ofJson schema with
    | error e =>
      rw [read] at given
      cases given
    | ok document =>
      rw [read] at given
      exact .inr ⟨document, (Except.ok.inj given).symm⟩
  · exact .inl ⟨_, (Except.ok.inj given).symm⟩

end RouteDefinition

end MockApi
