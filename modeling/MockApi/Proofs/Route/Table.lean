import Mathlib.Data.List.Nodup
import MockApi.Proofs.Route.Template
import MockApi.Route.Table

/-!
# Route tables keep the last route of each key

A table that routes were registered in one after the other has each key once, in the order of first
registration, with the route that was registered last under it (`insertAll_lastWins`). Each registration
keeps this (`Represents.insert`).
-/

namespace MockApi

theorem Route.key_eq_key_iff {a b : Route} :
    a.key = b.key ↔ a.method = b.method ∧ a.template = b.template := by
  rw [key, key, Prod.mk.injEq, template, template, Template.text_parse_inj]

namespace RouteTable

variable {t : RouteTable} {written : List Route} {route : Route} {key : Method × String} {i : Nat}

/-! ### Where keys stand -/

/-- The route under a key, found by the index. -/
def held? (t : RouteTable) (key : Method × String) : Option Route :=
  (placeIn t.index key).bind (t.routes[·]?)

theorem placeIn_eq_some (found : placeIn t.index key = some i) :
    ∃ inside : i < t.routes.length, t.routes[i].key = key := by
  rw [t.indexed] at found
  obtain ⟨inside, same, -⟩ := List.findIdx?_eq_some_iff_getElem.mp found
  rw [List.length_map] at inside
  exact ⟨inside, by simpa using same⟩

theorem placeIn_eq_none : placeIn t.index key = none ↔ key ∉ t.routes.map Route.key := by
  rw [t.indexed, List.findIdx?_eq_none_iff]
  constructor
  · intro absent mem
    simpa using absent key mem
  · intro absent other mem
    simpa using fun same : other = key => absent (same ▸ mem)

theorem held?_key (distinct : (t.routes.map Route.key).Nodup) (mem : route ∈ t.routes) :
    t.held? route.key = some route := by
  obtain ⟨j, inside, rfl⟩ := List.mem_iff_getElem.mp mem
  cases found : placeIn t.index t.routes[j].key with
  | none => exact absurd (List.mem_map_of_mem mem) (placeIn_eq_none.mp found)
  | some i =>
    obtain ⟨within, same⟩ := placeIn_eq_some found
    have keys : (t.routes.map Route.key)[i]? = (t.routes.map Route.key)[j]? := by
      simp [inside, within, same]
    obtain rfl : i = j := (List.getElem?_inj (by simpa) distinct).mp keys
    rw [held?, found, Option.bind_some, List.getElem?_eq_getElem]

/-! ### One registration -/

theorem insert_of_found (found : placeIn t.index route.key = some i) :
    (t.insert route).1.routes = t.routes.set i route ∧ (t.insert route).1.index = t.index ∧
      (t.insert route).2 = t.routes[i]? := by
  unfold insert
  split
  · rename_i j other
    cases found.symm.trans other
    exact ⟨rfl, rfl, rfl⟩
  · rename_i absent
    cases found.symm.trans absent

theorem insert_of_absent (absent : placeIn t.index route.key = none) :
    (t.insert route).1.routes = t.routes ++ [route] ∧
      (t.insert route).1.index = (route.key, t.routes.length) :: t.index ∧
      (t.insert route).2 = none := by
  unfold insert
  split
  · rename_i j found
    cases absent.symm.trans found
  · exact ⟨rfl, rfl, rfl⟩

/-- What is given back is the route that was there. -/
theorem insert_snd (t : RouteTable) (route : Route) : (t.insert route).2 = t.held? route.key := by
  cases found : placeIn t.index route.key with
  | some i => rw [(insert_of_found found).2.2, held?, found, Option.bind_some]
  | none => rw [(insert_of_absent found).2.2, held?, found, Option.bind_none]

theorem map_key_insert (t : RouteTable) (route : Route) :
    (t.insert route).1.routes.map Route.key =
      if route.key ∈ t.routes.map Route.key then t.routes.map Route.key
      else t.routes.map Route.key ++ [route.key] := by
  cases found : placeIn t.index route.key with
  | some i =>
    have present : route.key ∈ t.routes.map Route.key := by
      by_contra absent
      cases found.symm.trans (placeIn_eq_none.mpr absent)
    rw [(insert_of_found found).1, map_key_set (t.indexed route.key ▸ found), if_pos present]
  | none =>
    rw [(insert_of_absent found).1, List.map_append, if_neg (placeIn_eq_none.mp found)]
    rfl

theorem held?_insert (t : RouteTable) (route : Route) (key : Method × String) :
    (t.insert route).1.held? key = if route.key = key then some route else t.held? key := by
  cases found : placeIn t.index route.key with
  | some i =>
    obtain ⟨routes, index, -⟩ := insert_of_found found
    obtain ⟨inside, own⟩ := placeIn_eq_some found
    rw [held?, routes, index]
    by_cases same : route.key = key
    · subst same
      rw [if_pos rfl, found, Option.bind_some, List.getElem?_set_self inside]
    · rw [if_neg same, held?]
      cases place : placeIn t.index key with
      | none => rfl
      | some j =>
        obtain ⟨within, other⟩ := placeIn_eq_some place
        have apart : i ≠ j := fun equal => by
          subst equal
          exact same (own.symm.trans other)
        rw [Option.bind_some, Option.bind_some, List.getElem?_set_ne apart]
  | none =>
    obtain ⟨routes, index, -⟩ := insert_of_absent found
    rw [held?, routes, index, placeIn_cons]
    by_cases same : route.key = key
    · rw [if_pos same, if_pos same, Option.bind_some, List.getElem?_concat_length]
    · rw [if_neg same, if_neg same, held?]
      cases place : placeIn t.index key with
      | none => rfl
      | some j =>
        obtain ⟨within, -⟩ := placeIn_eq_some place
        rw [Option.bind_some, Option.bind_some, List.getElem?_append_left within]

/-! ### Every history -/

/-- The route that was written last under a key. -/
def lastUnder (written : List Route) (key : Method × String) : Option Route :=
  written.reverse.find? (·.key = key)

theorem lastUnder_append (written : List Route) (route : Route) (key : Method × String) :
    lastUnder (written ++ [route]) key =
      if route.key = key then some route else lastUnder written key := by
  by_cases same : route.key = key <;> simp [lastUnder, same]

/-- The table has the keys of what was written in the order of their first use, and under each the last
route. -/
structure Represents (written : List Route) (t : RouteTable) : Prop where
  distinct : (t.routes.map Route.key).Nodup
  order : t.routes.map Route.key = (written.map Route.key).eraseDups
  last : ∀ key, t.held? key = lastUnder written key

namespace Represents

theorem empty : Represents [] {} where
  distinct := List.nodup_nil
  order := rfl
  last _ := rfl

theorem insert (represents : Represents written t) (route : Route) :
    Represents (written ++ [route]) (t.insert route).1 where
  distinct := by
    rw [map_key_insert]
    split
    · exact represents.distinct
    · rename_i absent
      exact List.nodup_append.mpr ⟨represents.distinct, List.nodup_singleton _, by
        intro key mem other single same
        rw [same, List.mem_singleton.mp single] at mem
        exact absent mem⟩
  order := by
    have known : route.key ∈ t.routes.map Route.key ↔ route.key ∈ written.map Route.key := by
      rw [represents.order, List.mem_eraseDups]
    rw [map_key_insert, List.map_append, List.eraseDups_append, ← represents.order]
    by_cases present : route.key ∈ t.routes.map Route.key
    · have gone : [route.key].removeAll (written.map Route.key) = [] := by
        simpa [List.removeAll] using known.mp present
      rw [if_pos present, List.map_singleton, gone]
      simp
    · have kept : [route.key].removeAll (written.map Route.key) = [route.key] := by
        simpa [List.removeAll] using present ∘ known.mpr
      rw [if_neg present, List.map_singleton, kept]
      rfl
  last key := by
    rw [held?_insert, lastUnder_append, represents.last]

/-- Every route of the table was written. -/
theorem mem (represents : Represents written t) (held : route ∈ t.routes) : route ∈ written := by
  have last := represents.last route.key
  rw [held?_key represents.distinct held] at last
  exact List.mem_reverse.mp (List.mem_of_find?_eq_some last.symm)

theorem insertAll (represents : Represents written t) (routes : List Route) :
    Represents (written ++ routes) (t.insertAll routes) := by
  induction routes generalizing t written with
  | nil => simpa [RouteTable.insertAll] using represents
  | cons route routes ih => simpa [RouteTable.insertAll] using ih (represents.insert route)

end Represents

/-- Two routes have the same key exactly if they have the same method and the same segments. The segments
are those of the path as it was given, and paths have the same segments exactly if they have the same
parts, up to the two spellings of a parameter. A table that routes were registered in has each of their
keys once, in the order of first registration, with the route that was registered last under it; a
registration gives back the route that it displaces; and a route is found by any spelling of its
template. -/
theorem insertAll_lastWins (written : List Route) :
    let t := insertAll {} written
    (∀ a b : Route, a.key = b.key ↔ a.method = b.method ∧ a.template = b.template) ∧
    (∀ method path source, (Route.ofPath method path source).template = Template.parse path) ∧
    (∀ path other : String, Template.parse path = Template.parse other ↔
      List.Forall₂ Route.Respelled (Route.pathParts path.toList) (Route.pathParts other.toList)) ∧
    (t.routes.map Route.key).Nodup ∧
    t.routes.map Route.key = (written.map Route.key).eraseDups ∧
    (∀ route ∈ t.routes, lastUnder written route.key = some route) ∧
    (∀ route, (t.insert route).2 = lastUnder written route.key ∧
      ∀ old ∈ t.routes, (t.insert route).2 = some old ↔ old.key = route.key) ∧
    (∀ method path, t.get? method path = written.reverse.find? fun route =>
      route.method = method ∧ route.template = Template.parse path) := by
  intro t
  have represents : Represents written t := Represents.empty.insertAll written
  refine ⟨fun a b => Route.key_eq_key_iff, fun _ path _ => Template.parse_normalizePath path,
    fun path other => Template.parse_eq_parse_iff,
    represents.distinct, represents.order, ?_, ?_, ?_⟩
  · intro route mem
    rw [← represents.last, held?_key represents.distinct mem]
  · intro route
    refine ⟨by rw [insert_snd, represents.last], fun old mem => ?_⟩
    have own := held?_key represents.distinct mem
    rw [insert_snd]
    constructor
    · intro displaced
      obtain ⟨i, found, inside⟩ := Option.bind_eq_some_iff.mp displaced
      obtain ⟨within, same⟩ := placeIn_eq_some found
      rw [List.getElem?_eq_getElem within] at inside
      exact Option.some.inj inside ▸ same
    · intro same
      rw [← same, own]
  · intro method path
    have held : t.get? method path = t.held? (method, (Template.parse path).text) := rfl
    rw [held, represents.last, lastUnder]
    congr 1
    funext route
    refine decide_eq_decide.mpr ?_
    rw [Route.key, Prod.mk.injEq, Route.template, Template.text_parse_inj]

/-- A route registered again under another spelling of its path keeps its place. -/
example :
    let route path := Route.ofPath .get path (.literal .null)
    (insertAll {} [route "/pets/:id", route "/pets", route "//pets/\x7bid\x7d/"]).routes.map (·.path) =
      ["/pets/\x7bid\x7d", "/pets"] := by
  decide +kernel

end RouteTable

end MockApi
