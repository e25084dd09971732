import Mathlib.Algebra.Order.BigOperators.Group.List
import Mathlib.Algebra.Order.Group.Nat
import Mathlib.Data.List.Induction
import Mathlib.Data.List.TakeWhile
import MockApi.Proofs.Route.Table

/-!
# Which route serves a request

Of the routes that fit a request the table gives one with most literal segments, and of those the first
(`matchRequest_eq_some_iff`). A template fits the parts of a path one by one (`isSome_matchParts_iff`), so
that one that fits whatever another fits has no more literal segments (`specificity_le`).
-/

namespace MockApi

namespace Text

variable {separator c : Char} {s : List Char}

theorem mem_of_mem_splitOn {piece : List Char} (part : piece ∈ splitOn separator s)
    (mem : c ∈ piece) : c ∈ s := by
  induction s generalizing piece with
  | nil =>
    rw [splitOn, List.mem_singleton] at part
    exact part ▸ mem
  | cons first rest ih =>
    rw [splitOn] at part
    by_cases same : first = separator
    · rw [if_pos same] at part
      rcases List.mem_cons.mp part with rfl | part
      · cases mem
      · exact List.mem_cons_of_mem _ (ih part mem)
    · rw [if_neg same] at part
      cases pieces : splitOn separator rest with
      | nil => exact absurd pieces (splitOn_ne_nil separator rest)
      | cons head others =>
        rw [pieces] at part ih
        rcases List.mem_cons.mp part with rfl | part
        · rcases List.mem_cons.mp mem with rfl | mem
          · exact List.mem_cons_self
          · exact List.mem_cons_of_mem _ (ih List.mem_cons_self mem)
        · exact List.mem_cons_of_mem _ (ih (List.mem_cons_of_mem _ part) mem)

theorem mem_joinWith {between : String} {pieces : List String}
    (mem : c ∈ (joinWith between pieces).toList) :
    c ∈ between.toList ∨ ∃ piece ∈ pieces, c ∈ piece.toList := by
  induction pieces with
  | nil => simp [joinWith] at mem
  | cons first others ih =>
    cases others with
    | nil => exact .inr ⟨first, List.mem_cons_self, mem⟩
    | cons second others =>
      simp only [joinWith, String.toList_append, List.mem_append] at mem
      rcases mem with (mem | mem) | mem
      · exact .inr ⟨first, List.mem_cons_self, mem⟩
      · exact .inl mem
      · rcases ih mem with inside | ⟨piece, part, inside⟩
        · exact .inl inside
        · exact .inr ⟨piece, List.mem_cons_of_mem _ part, inside⟩

end Text

/-! ### Templates and parts -/

namespace Route

/-- Whether a segment may stand for a part. -/
def Segment.Accepts : Segment → List Char → Prop
  | literal s, part => s.toList = part
  | param _, _ => True

/-- A segment without the name of its parameter. -/
def Segment.unnamed : Segment → Segment
  | literal s => literal s
  | param _ => param ""

/-- The part as it is under a literal segment, and another in place of a parameter. -/
def Segment.fill (other : List Char) : Segment → List Char → List Char
  | literal _, part => part
  | param _, _ => other

end Route

namespace Template

open Route

variable {t u : Template} {parts : List (List Char)} {other : List Char}

theorem isSome_matchParts_iff :
    (t.matchParts parts).isSome = true ↔ List.Forall₂ Segment.Accepts t parts := by
  induction t generalizing parts with
  | nil => cases parts <;> simp [matchParts]
  | cons segment t ih =>
    cases parts with
    | nil => cases segment <;> simp [matchParts]
    | cons part parts =>
      cases segment with
      | literal s =>
        by_cases same : s.toList = part <;> simp [matchParts, Segment.Accepts, same, ih]
      | param name => simp [matchParts, Segment.Accepts, ih]

theorem accepts_map_unnamed :
    List.Forall₂ Segment.Accepts (t.map Segment.unnamed) parts ↔
      List.Forall₂ Segment.Accepts t parts := by
  have unnamed (segment : Segment) (part : List Char) :
      segment.unnamed.Accepts part ↔ segment.Accepts part := by
    cases segment <;> exact Iff.rfl
  rw [List.forall₂_map_left_iff]
  simp only [unnamed]

theorem accepts_fill (accepts : List.Forall₂ Segment.Accepts t parts) (other : List Char) :
    List.Forall₂ Segment.Accepts t (List.zipWith (Segment.fill other) t parts) := by
  induction accepts with
  | nil => exact .nil
  | @cons segment part t parts first _ ih =>
    cases segment with
    | literal s => exact .cons first ih
    | param name => exact .cons trivial ih

theorem mem_fill {part : List Char} (mem : part ∈ List.zipWith (Segment.fill other) t parts) :
    part ∈ parts ∨ part = other := by
  induction t generalizing parts with
  | nil => cases mem
  | cons segment t ih =>
    cases parts with
    | nil => cases mem
    | cons first parts =>
      rcases List.mem_cons.mp mem with rfl | mem
      · cases segment with
        | literal s => exact .inl List.mem_cons_self
        | param name => exact .inr rfl
      · rcases ih mem with mem | same
        · exact .inl (List.mem_cons_of_mem _ mem)
        · exact .inr same

/-- Where another template has a parameter, one that fits parts filled in with what is none of its
literal segments has a parameter too. -/
theorem specificity_le_of_fill (foreign : ∀ s, Segment.literal s ∈ u → s.toList ≠ other)
    (accepts : List.Forall₂ Segment.Accepts u (List.zipWith (Segment.fill other) t parts)) :
    u.specificity ≤ t.specificity := by
  induction t generalizing u parts with
  | nil =>
    cases accepts
    exact Nat.le_refl _
  | cons segment t ih =>
    cases parts with
    | nil =>
      cases accepts
      exact Nat.zero_le _
    | cons part parts =>
      rw [List.zipWith_cons_cons] at accepts
      obtain ⟨head, u, first, rest, rfl⟩ := List.forall₂_cons_right_iff.mp accepts
      have below : Template.specificity u ≤ Template.specificity t :=
        ih (fun s mem => foreign s (List.mem_cons_of_mem _ mem)) rest
      unfold specificity at below ⊢
      rw [List.countP_cons, List.countP_cons]
      cases head with
      | param name =>
        simp only [Segment.isLiteral, Bool.false_eq_true, if_false]
        omega
      | literal s =>
        cases segment with
        | literal s' =>
          simp only [Segment.isLiteral, if_true]
          omega
        | param name => exact absurd first (foreign s List.mem_cons_self)

/-- A part that is longer than the literal segments of a template. -/
def stranger (u : Template) : List Char :=
  List.replicate ((u.map fun segment => segment.text.toList).flatten.length + 1) 'x'

theorem ne_stranger {s : String} (mem : Segment.literal s ∈ u) : s.toList ≠ stranger u := by
  intro same
  have listed : s.toList ∈ u.map fun segment => segment.text.toList :=
    List.mem_map.mpr ⟨.literal s, mem, rfl⟩
  have short := (List.sublist_flatten_of_mem listed).length_le
  rw [same, stranger, List.length_replicate] at short
  omega

end Template

/-! ### Requests -/

namespace RouteTable

variable {t : RouteTable} {method : Method} {path : String} {m : RouteMatch} {c : Char}

theorem toList_withoutQuery (path : String) :
    (withoutQuery path).toList = path.toList.takeWhile (· ≠ '?') :=
  String.toList_ofList

theorem withoutQuery_of_not_mem (plain : '?' ∉ path.toList) : withoutQuery path = path := by
  have all : path.toList.takeWhile (· ≠ '?') = path.toList :=
    List.takeWhile_eq_self_iff.mpr fun c mem => by
      simpa using fun same : c = '?' => plain (same ▸ mem)
  rw [withoutQuery, all, String.ofList_toList]

theorem not_mem_of_mem_pathParts {part : List Char}
    (mem : part ∈ Route.pathParts (withoutQuery path).toList) : '?' ∉ part := by
  intro inside
  have within := Text.mem_of_mem_splitOn (List.mem_filter.mp mem).1 inside
  rw [toList_withoutQuery] at within
  simpa using List.mem_takeWhile_imp within

end RouteTable

namespace Route

/-- The route may serve requests for the path. -/
def Fits (route : Route) (path : String) : Prop :=
  (route.template.matchPath (RouteTable.withoutQuery path)).isSome = true

theorem fits_iff {route : Route} {path : String} :
    route.Fits path ↔ List.Forall₂ Segment.Accepts route.template
      (pathParts (RouteTable.withoutQuery path).toList) := by
  rw [← Template.isSome_matchParts_iff, Fits, Template.matchPath, Option.isSome_map]

instance (route : Route) (path : String) : Decidable (route.Fits path) :=
  inferInstanceAs (Decidable (_ = true))

/-- Which requests a route fits does not depend on what its parameters are called. -/
theorem fits_congr {route other : Route}
    (alike : route.template.map Segment.unnamed = other.template.map Segment.unnamed) (path : String) :
    route.Fits path ↔ other.Fits path := by
  rw [fits_iff, fits_iff, ← Template.accepts_map_unnamed, alike, Template.accepts_map_unnamed]

/-- A route that fits whatever another fits has no more literal segments, if there is anything. -/
theorem specificity_le {route other : Route} {path : String} (fits : route.Fits path)
    (wider : ∀ path, route.Fits path → other.Fits path) :
    other.template.specificity ≤ route.template.specificity := by
  -- The other route has to fit the path with its own stranger in place of every parameter.
  let parts := List.zipWith (Segment.fill (Template.stranger other.template)) route.template
    (pathParts (RouteTable.withoutQuery path).toList)
  have areParts : ∀ part ∈ parts, IsPart part ∧ '?' ∉ part := by
    intro part filled
    rcases Template.mem_fill filled with mem | rfl
    · exact ⟨isPart_of_mem_pathParts mem, RouteTable.not_mem_of_mem_pathParts mem⟩
    · exact ⟨⟨by simp [Template.stranger], by simp [Template.stranger]⟩, by simp [Template.stranger]⟩
  have plain : '?' ∉ (joinPath (parts.map String.ofList)).toList := by
    intro mem
    rw [joinPath, String.toList_append, List.mem_append] at mem
    rcases mem with mem | mem
    · simp at mem
    · rcases Text.mem_joinWith mem with mem | ⟨part, inside, mem⟩
      · simp at mem
      · obtain ⟨raw, listed, rfl⟩ := List.mem_map.mp inside
        rw [String.toList_ofList] at mem
        exact (areParts raw listed).2 mem
  have read : pathParts (RouteTable.withoutQuery (joinPath (parts.map String.ofList))).toList =
      parts := by
    rw [RouteTable.withoutQuery_of_not_mem plain,
      pathParts_joinPath_ofList fun part mem => (areParts part mem).1]
  have filled : other.Fits (joinPath (parts.map String.ofList)) :=
    wider _ (fits_iff.mpr (by rw [read]; exact Template.accepts_fill (fits_iff.mp fits) _))
  rw [fits_iff, read] at filled
  exact Template.specificity_le_of_fill (fun s mem => Template.ne_stranger mem) filled

end Route

namespace RouteTable

variable {t : RouteTable} {method : Method} {path : String} {m : RouteMatch}

/-- Of a list of matches one with most literal segments is kept, and of those the first. -/
theorem foldl_better_cases (found : List RouteMatch) :
    (found = [] ∧ found.foldl better none = none) ∨
    ∃ m before after, found.foldl better none = some m ∧ found = before ++ m :: after ∧
      (∀ x ∈ before, x.route.template.specificity < m.route.template.specificity) ∧
      ∀ x ∈ after, x.route.template.specificity ≤ m.route.template.specificity := by
  induction found using List.reverseRecOn with
  | nil => exact .inl ⟨rfl, rfl⟩
  | append_singleton found x ih =>
    rw [List.foldl_append, List.foldl_cons, List.foldl_nil]
    rcases ih with ⟨rfl, kept⟩ | ⟨m, before, after, kept, rfl, less, atMost⟩
    · exact .inr ⟨x, [], [], by rw [kept, better], rfl, by simp, by simp⟩
    · rw [kept, better]
      by_cases more : m.route.template.specificity < x.route.template.specificity
      · rw [if_pos more]
        refine .inr ⟨x, before ++ m :: after, [], rfl, rfl, fun y mem => ?_, by simp⟩
        rcases List.mem_append.mp mem with mem | mem
        · exact (less y mem).trans more
        · rcases List.mem_cons.mp mem with rfl | mem
          · exact more
          · exact (atMost y mem).trans_lt more
      · rw [if_neg more]
        refine .inr ⟨m, before, after ++ [x], rfl, by simp, less, fun y mem => ?_⟩
        rcases List.mem_append.mp mem with mem | mem
        · exact atMost y mem
        · rw [List.mem_singleton.mp mem]
          exact Nat.le_of_not_lt more

/-- The best match so far stays while nothing better comes. -/
theorem foldl_better_some {later : List RouteMatch}
    (atMost : ∀ x ∈ later, x.route.template.specificity ≤ m.route.template.specificity) :
    later.foldl better (some m) = some m := by
  induction later with
  | nil => rfl
  | cons x later ih =>
    rw [List.foldl_cons, better, if_neg (Nat.not_lt.mpr (atMost x List.mem_cons_self))]
    exact ih fun y mem => atMost y (List.mem_cons_of_mem _ mem)

theorem foldl_better_eq_some {found : List RouteMatch} :
    found.foldl better none = some m ↔
      ∃ before after, found = before ++ m :: after ∧
        (∀ x ∈ before, x.route.template.specificity < m.route.template.specificity) ∧
        ∀ x ∈ after, x.route.template.specificity ≤ m.route.template.specificity := by
  constructor
  · intro kept
    rcases foldl_better_cases found with ⟨-, none_⟩ | ⟨m', before, after, some_, parts⟩
    · cases none_.symm.trans kept
    · cases some_.symm.trans kept
      exact ⟨before, after, parts⟩
  · rintro ⟨before, after, rfl, less, atMost⟩
    rw [List.foldl_append, List.foldl_cons]
    rcases foldl_better_cases before with ⟨rfl, -⟩ | ⟨first, _, _, kept, rfl, -⟩
    · exact foldl_better_some atMost
    · rw [kept, better, if_pos (less first (by simp))]
      exact foldl_better_some atMost

theorem matchOne_eq_some {route : Route} :
    matchOne method path route = some m ↔
      m.route = route ∧ route.method = method ∧ route.template.matchPath path = some m.params := by
  unfold matchOne
  by_cases same : route.method = method
  · rw [if_pos same, Option.map_eq_some_iff]
    constructor
    · rintro ⟨params, found, rfl⟩
      exact ⟨rfl, same, found⟩
    · rintro ⟨rfl, -, found⟩
      exact ⟨_, found, rfl⟩
  · simp [same]

/-- What holds of the matches of routes holds of those of them that fit. -/
theorem forall_filterMap_matchOne {routes : List Route} {P : Route → Prop} :
    (∀ x ∈ routes.filterMap (matchOne method (withoutQuery path)), P x.route) ↔
      ∀ route ∈ routes, route.method = method → route.Fits path → P route := by
  constructor
  · intro all route mem method fits
    obtain ⟨params, found⟩ := Option.isSome_iff_exists.mp fits
    exact all ⟨route, params⟩
      (List.mem_filterMap.mpr ⟨route, mem, matchOne_eq_some.mpr ⟨rfl, method, found⟩⟩)
  · intro all x mem
    obtain ⟨route, inside, found⟩ := List.mem_filterMap.mp mem
    obtain ⟨rfl, method, params⟩ := matchOne_eq_some.mp found
    exact all x.route inside method (Option.isSome_iff_exists.mpr ⟨_, params⟩)

/-- The route that serves a request is of its method and fits it; no other that does so has more literal
segments, and of those with as many it is the first. -/
theorem matchRequest_eq_some_iff :
    t.matchRequest method path = some m ↔
      ∃ before after, t.routes = before ++ m.route :: after ∧ m.route.method = method ∧
        m.route.template.matchPath (withoutQuery path) = some m.params ∧
        (∀ route ∈ before, route.method = method → route.Fits path →
          route.template.specificity < m.route.template.specificity) ∧
        ∀ route ∈ after, route.method = method → route.Fits path →
          route.template.specificity ≤ m.route.template.specificity := by
  rw [matchRequest, foldl_better_eq_some]
  constructor
  · rintro ⟨before, after, split, less, atMost⟩
    obtain ⟨early, rest, whole, rfl, behind⟩ := List.filterMap_eq_append_iff.mp split
    obtain ⟨skipped, route, after, rfl, unfit, found, rfl⟩ := List.filterMap_eq_cons_iff.mp behind
    obtain ⟨rfl, own, params⟩ := matchOne_eq_some.mp found
    -- What is skipped between the matches before this one and its route does not fit.
    have before : (early ++ skipped).filterMap (matchOne method (withoutQuery path)) =
        early.filterMap (matchOne method (withoutQuery path)) := by
      have none_left := List.filterMap_eq_nil_iff.mpr unfit
      rw [List.filterMap_append, none_left, List.append_nil]
    exact ⟨early ++ skipped, after, by rw [whole, List.append_assoc], own, params,
      forall_filterMap_matchOne.mp (before ▸ less), forall_filterMap_matchOne.mp atMost⟩
  · rintro ⟨before, after, whole, own, params, less, atMost⟩
    have found : matchOne method (withoutQuery path) m.route = some m :=
      matchOne_eq_some.mpr ⟨rfl, own, params⟩
    refine ⟨_, _, ?_, forall_filterMap_matchOne.mpr less, forall_filterMap_matchOne.mpr atMost⟩
    rw [whole, List.filterMap_append, List.filterMap_cons_some found]

/-- A route that fits is served with its own parameters. -/
theorem map_route_eq_some_iff {route : Route} :
    (t.matchRequest method path).map (·.route) = some route ↔
      ∃ before after, t.routes = before ++ route :: after ∧ route.method = method ∧ route.Fits path ∧
        (∀ other ∈ before, other.method = method → other.Fits path →
          other.template.specificity < route.template.specificity) ∧
        ∀ other ∈ after, other.method = method → other.Fits path →
          other.template.specificity ≤ route.template.specificity := by
  rw [Option.map_eq_some_iff]
  constructor
  · rintro ⟨m, served, rfl⟩
    obtain ⟨before, after, whole, own, params, rest⟩ := matchRequest_eq_some_iff.mp served
    exact ⟨before, after, whole, own, Option.isSome_iff_exists.mpr ⟨_, params⟩, rest⟩
  · rintro ⟨before, after, whole, own, fits, rest⟩
    obtain ⟨params, found⟩ := Option.isSome_iff_exists.mp fits
    exact ⟨⟨route, params⟩,
      matchRequest_eq_some_iff.mpr ⟨before, after, whole, own, found, rest⟩, rfl⟩

end RouteTable

end MockApi
