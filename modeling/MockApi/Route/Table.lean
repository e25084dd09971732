import MockApi.Route

/-!
# Route tables

Routes in the order in which their keys were first registered. A route that is registered under a key that
is there takes the place of the one before it. Of the routes that fit a request, one with most literal
segments serves it, and of those the first.
-/

namespace MockApi

namespace RouteTable

/-- Where an index says that a key stands. -/
def placeIn (index : List ((Method × String) × Nat)) (key : Method × String) : Option Nat :=
  (index.find? (·.1 = key)).map (·.2)

theorem placeIn_nil :
    ∀ key, placeIn [] key = (([] : List Route).map Route.key).findIdx? (· = key) :=
  fun _ => rfl

end RouteTable

/-- The routes in their order, and an index that leads from a key to the place of its route. -/
structure RouteTable where
  routes : List Route := []
  index : List ((Method × String) × Nat) := []
  indexed : ∀ key, RouteTable.placeIn index key = (routes.map Route.key).findIdx? (· = key) := by
    exact RouteTable.placeIn_nil

structure RouteMatch where
  route : Route
  params : Table String

namespace RouteTable

variable {routes : List Route} {index : List ((Method × String) × Nat)} {route : Route} {i : Nat}

theorem placeIn_cons (key other : Method × String) (n : Nat) :
    placeIn ((key, n) :: index) other = if key = other then some n else placeIn index other := by
  by_cases same : key = other <;> simp [placeIn, same]

/-- A route put in the place of one with its key leaves the keys as they are. -/
theorem map_key_set (found : (routes.map Route.key).findIdx? (· = route.key) = some i) :
    (routes.set i route).map Route.key = routes.map Route.key := by
  obtain ⟨inside, same, -⟩ := List.findIdx?_eq_some_iff_getElem.mp found
  rw [List.map_set, ← of_decide_eq_true same, List.set_getElem_self]

theorem placeIn_cons_length
    (indexed : ∀ key, placeIn index key = (routes.map Route.key).findIdx? (· = key))
    (absent : placeIn index route.key = none) (key : Method × String) :
    placeIn ((route.key, routes.length) :: index) key =
      ((routes ++ [route]).map Route.key).findIdx? (· = key) := by
  rw [placeIn_cons, indexed, List.map_append, List.findIdx?_append, List.length_map]
  by_cases same : route.key = key
  · subst same
    rw [← indexed, absent]
    simp
  · simp [same]

/-- A route takes the place of the one under its key, which is given back, or goes behind the others. -/
def insert (t : RouteTable) (route : Route) : RouteTable × Option Route :=
  match found : placeIn t.index route.key with
  | some i =>
    let indexed key := (map_key_set (t.indexed route.key ▸ found)).symm ▸ t.indexed key
    (⟨t.routes.set i route, t.index, indexed⟩, t.routes[i]?)
  | none =>
    (⟨t.routes ++ [route], (route.key, t.routes.length) :: t.index,
      placeIn_cons_length t.indexed found⟩, none)

def insertAll (t : RouteTable) (routes : List Route) : RouteTable :=
  routes.foldl (fun t route => (t.insert route).1) t

def get? (t : RouteTable) (method : Method) (template : String) : Option Route :=
  (placeIn t.index (method, (Template.parse template).text)).bind (t.routes[·]?)

def withoutQuery (path : String) : String := String.ofList (path.toList.takeWhile (· ≠ '?'))

/-- The better of the best match so far and a later one. -/
def better (best : Option RouteMatch) (later : RouteMatch) : Option RouteMatch :=
  match best with
  | none => some later
  | some first =>
    if first.route.template.specificity < later.route.template.specificity then some later
    else some first

def matchOne (method : Method) (path : String) (route : Route) : Option RouteMatch :=
  if route.method = method then (route.template.matchPath path).map (⟨route, ·⟩) else none

def matchRequest (t : RouteTable) (method : Method) (path : String) : Option RouteMatch :=
  (t.routes.filterMap (matchOne method (withoutQuery path))).foldl better none

end RouteTable

end MockApi
