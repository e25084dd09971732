import MockApi.Proofs.Route.Matching

/-!
# The choice among routes

Of the routes of a method that fit a path one with most literal segments is chosen, and of those the one
that was registered first (`matchRequest_optimal`). A route that is registered again keeps its turn. What
counts of the path are its parts (`matchRequest_congr`), and of these none is behind a question mark
(`withoutQuery_append_query`).
-/

namespace MockApi

namespace RouteTable

open Route

variable {t : RouteTable} {written : List Route} {route : Route} {method : Method}
  {path other : String} {m : RouteMatch} {i j : Nat}

/-! ### What counts of a path -/

theorem matchRequest_congr
    (same : normalizePath (withoutQuery other) = normalizePath (withoutQuery path)) :
    t.matchRequest method other = t.matchRequest method path := by
  have parts : pathParts (withoutQuery other).toList = pathParts (withoutQuery path).toList := by
    rw [← pathParts_normalizePath, same, pathParts_normalizePath]
  have one : matchOne method (withoutQuery other) = matchOne method (withoutQuery path) := by
    funext route
    simp only [matchOne, Template.matchPath, parts]
  rw [matchRequest, one, matchRequest]

theorem withoutQuery_append_query (path query : String) :
    withoutQuery (path ++ "?" ++ query) = withoutQuery path := by
  have behind : (path ++ "?" ++ query).toList = path.toList ++ '?' :: query.toList := by simp
  rw [withoutQuery, behind, List.takeWhile_append, List.takeWhile_cons_of_neg (by simp), withoutQuery]
  split
  · rename_i whole
    rw [List.append_nil, (List.takeWhile_prefix _).eq_of_length whole]
  · rfl

/-! ### Turns -/

/-- A list without its repetitions has its entries in the order in which they came first. -/
theorem pairwise_idxOf_eraseDups {α : Type} [BEq α] [LawfulBEq α] (entries : List α) :
    entries.eraseDups.Pairwise fun a b => entries.idxOf a < entries.idxOf b := by
  induction entries using List.reverseRecOn with
  | nil => exact .nil
  | append_singleton entries last ih =>
    have kept {a : α} (mem : a ∈ entries.eraseDups) : (entries ++ [last]).idxOf a = entries.idxOf a :=
      List.idxOf_append_of_mem (List.mem_eraseDups.mp mem)
    rw [List.eraseDups_append, List.pairwise_append]
    refine ⟨ih.imp_of_mem fun memA memB earlier => ?_, ?_, fun a memA b memB => ?_⟩
    · rwa [kept memA, kept memB]
    · by_cases known : last ∈ entries
      · simp [List.removeAll, known]
      · simp [List.removeAll, known, List.eraseDups_cons]
    · have new : b = last ∧ b ∉ entries := by
        rw [List.mem_eraseDups] at memB
        simpa [List.removeAll] using memB
      obtain ⟨rfl, new⟩ := new
      have early := List.idxOf_lt_length_of_mem (List.mem_eraseDups.mp memA)
      rw [kept memA, List.idxOf_append_of_notMem new]
      omega

/-- Of two routes of a table, the one that stands first had its key registered first. -/
theorem Represents.idxOf_lt (represents : Represents written t) (before : i < j)
    (first : t.routes[i]? = some m.route) (second : t.routes[j]? = some route) :
    (written.map Route.key).idxOf m.route.key < (written.map Route.key).idxOf route.key := by
  have ordered := pairwise_idxOf_eraseDups (written.map Route.key)
  rw [← represents.order, List.pairwise_map] at ordered
  obtain ⟨inside, rfl⟩ := List.getElem?_eq_some_iff.mp second
  obtain ⟨inside', same⟩ := List.getElem?_eq_some_iff.mp first
  rw [← same]
  exact List.pairwise_iff_getElem.mp ordered i j inside' inside before

/-! ### The choice -/

theorem matchRequest_eq_none_iff :
    t.matchRequest method path = none ↔
      ∀ route ∈ t.routes, route.method = method → ¬route.Fits path := by
  rw [← forall_filterMap_matchOne (P := fun _ => False), matchRequest]
  rcases foldl_better_cases (t.routes.filterMap (matchOne method (withoutQuery path))) with
    ⟨empty, kept⟩ | ⟨m, before, after, kept, whole, -⟩
  · simp [empty]
  · refine iff_of_false (by simp [kept]) fun absent => absent m ?_
    rw [whole]
    exact List.mem_append_right _ List.mem_cons_self

/-- A route that fits and stands before the chosen one has fewer literal segments, and one behind it has no
more. -/
theorem exists_place_of_matchRequest (chosen : t.matchRequest method path = some m) :
    ∃ i : Nat, t.routes[i]? = some m.route ∧
      ∀ (j : Nat) route, t.routes[j]? = some route → route.method = method → route.Fits path →
        route.template.specificity < m.route.template.specificity ∨
          route.template.specificity = m.route.template.specificity ∧ i ≤ j := by
  obtain ⟨before, after, whole, -, -, less, atMost⟩ := matchRequest_eq_some_iff.mp chosen
  have here : t.routes[before.length]? = some m.route := by
    rw [whole, List.getElem?_append_right (Nat.le_refl _), Nat.sub_self, List.getElem?_cons_zero]
  refine ⟨before.length, here, fun j route found own fits => ?_⟩
  rcases Nat.lt_or_ge j before.length with early | late
  · rw [whole, List.getElem?_append_left early] at found
    exact .inl (less route (List.mem_of_getElem? found) own fits)
  · rcases Nat.lt_or_eq_of_le late with behind | rfl
    · obtain ⟨k, rfl⟩ : ∃ k, j = before.length + (k + 1) := ⟨j - before.length - 1, by omega⟩
      rw [whole, List.getElem?_append_right late, Nat.add_sub_cancel_left, List.getElem?_cons_succ] at found
      have most := atMost route (List.mem_of_getElem? found) own fits
      omega
    · cases here.symm.trans found
      exact .inr ⟨rfl, Nat.le_refl _⟩

/-- A request is served by no route exactly if none of its method fits it. The route that serves it
otherwise is of its method and fits it, with the values that its template reads there; none that does so
has more literal segments, and none with as many stands before it, or was registered before it in a table
that routes were registered in. Nothing else counts than the parts of the path before the question
mark. -/
theorem matchRequest_optimal (t : RouteTable) (method : Method) (path : String) :
    (t.matchRequest method path = none ↔
      ∀ route ∈ t.routes, route.method = method →
        route.template.matchPath (withoutQuery path) = none) ∧
    (∀ m, t.matchRequest method path = some m →
      m.route.method = method ∧
      m.route.template.matchPath (withoutQuery path) = some m.params ∧
      (∃ i : Nat, t.routes[i]? = some m.route ∧
        ∀ (j : Nat) route, t.routes[j]? = some route → route.method = method → route.Fits path →
          route.template.specificity < m.route.template.specificity ∨
            route.template.specificity = m.route.template.specificity ∧ i ≤ j) ∧
      ∀ written, t = insertAll {} written →
        ∀ route ∈ t.routes, route.method = method → route.Fits path → route ≠ m.route →
          route.template.specificity = m.route.template.specificity →
          (written.map Route.key).idxOf m.route.key < (written.map Route.key).idxOf route.key) ∧
    (∀ other, normalizePath (withoutQuery other) = normalizePath (withoutQuery path) →
      t.matchRequest method other = t.matchRequest method path) ∧
    ∀ query, t.matchRequest method (path ++ "?" ++ query) = t.matchRequest method path := by
  refine ⟨?_, fun m chosen => ?_, fun other => matchRequest_congr, fun query =>
    matchRequest_congr (congrArg normalizePath (withoutQuery_append_query path query))⟩
  · simp only [matchRequest_eq_none_iff, Fits, Bool.not_eq_true, Option.isSome_eq_false_iff,
      Option.isNone_iff_eq_none]
  · obtain ⟨before, after, -, own, params, -⟩ := matchRequest_eq_some_iff.mp chosen
    obtain ⟨i, here, best⟩ := exists_place_of_matchRequest chosen
    refine ⟨own, params, ⟨i, here, best⟩, ?_⟩
    rintro written rfl route mem method fits other equal
    obtain ⟨j, found⟩ := List.mem_iff_getElem?.mp mem
    have behind : i < j := by
      rcases best j route found method fits with less | ⟨-, atLeast⟩
      · omega
      · refine Nat.lt_of_le_of_ne atLeast fun same => other ?_
        subst same
        exact Option.some.inj (found.symm.trans here)
    have represents : Represents written (insertAll {} written) := Represents.empty.insertAll written
    exact represents.idxOf_lt behind here found

/-- Routes of which several fit one path. The first is registered again under another spelling, behind one
that is as specific. -/
def rivals : List Route :=
  let route (path : String) (status : Nat) : Route :=
    { Route.ofPath .get path (.literal .null) with status }
  [route "/:kind/new" 201, route "/pets/:id" 202, route "//\x7bkind\x7d/new/" 203, route "/:kind/:id" 204]

theorem matchRequest_optimal_again :
    ∃ m, (insertAll {} rivals).matchRequest .get "/pets//new/?full=1/2" = some m ∧
      m.route.status = 203 ∧ m.params = [("kind", "pets")] ∧
      (∃ other ∈ (insertAll {} rivals).routes, other.status = 202 ∧ other.Fits "/pets//new/?full=1/2" ∧
        (rivals.map Route.key).idxOf m.route.key < (rivals.map Route.key).idxOf other.key) ∧
      (insertAll {} rivals).matchRequest .get "pets/new?" = some m := by
  obtain ⟨-, best, congr, -⟩ := matchRequest_optimal (insertAll {} rivals) .get "/pets//new/?full=1/2"
  have served : ((insertAll {} rivals).matchRequest .get "/pets//new/?full=1/2").map
      (fun m => (m.route.status, m.params, m.route.template.specificity)) =
        some (203, [("kind", "pets")], 1) := by decide +kernel
  obtain ⟨m, chosen, parts⟩ := Option.map_eq_some_iff.mp served
  obtain ⟨status, params, specificity⟩ : m.route.status = 203 ∧ m.params = [("kind", "pets")] ∧
      m.route.template.specificity = 1 := by simpa using parts
  have loses : ∃ other ∈ (insertAll {} rivals).routes, other.status = 202 ∧ other.method = .get ∧
      other.Fits "/pets//new/?full=1/2" ∧ other.template.specificity = 1 := by decide +kernel
  obtain ⟨other, mem, status', method, fits, equal⟩ := loses
  have apart : other ≠ m.route := fun same => by
    rw [same, status] at status'
    cases status'
  exact ⟨m, chosen, status, params, ⟨other, mem, status', fits, (best m chosen).2.2.2 rivals rfl other mem
    method fits apart (equal.trans specificity.symm)⟩, (congr "pets/new?" (by decide +kernel)).trans chosen⟩

end RouteTable

end MockApi
