import MockApi.Config
import MockApi.Proofs.Noun.Slugs
import MockApi.Proofs.Route.Derived
import MockApi.Proofs.Route.RoundTrip

/-!
# Collections below a base path

The collection of a noun is one segment below the base path, the slug of the noun, and its routes have nothing
to do with those of the base path itself, as soon as the noun has a letter or a number
(`collection_below_iff`). A noun of punctuation has no slug, and its collection is the base path. The slug is in
lower case unless the last word of the noun shouts, in a script without small letters.
-/

namespace MockApi

namespace Route

theorem pathParts_append_slash (path rest : List Char) :
    pathParts (path ++ '/' :: rest) = pathParts path ++ pathParts rest := by
  rw [pathParts, Text.splitOn_append_separator, List.filter_append, pathParts, pathParts]

theorem pathParts_of_isPart {part : List Char} (isPart : IsPart part) : pathParts part = [part] :=
  pathParts_of_slashed (fun _ mem => List.mem_singleton.mp mem ▸ isPart) (.last part)

/-- Routes whose templates differ in length have nothing to do with each other. -/
theorem apart_of_length_ne {route other : Route}
    (lengths : route.template.length ≠ other.template.length) :
    route.key ≠ other.key ∧ ∀ path, ¬(route.Fits path ∧ other.Fits path) := by
  constructor
  · intro same
    rw [(key_eq_key_iff.mp same).2] at lengths
    exact lengths rfl
  · rintro path ⟨fits, fits'⟩
    exact lengths ((fits_iff.mp fits).length_eq.trans (fits_iff.mp fits').length_eq.symm)

end Route

namespace Resource

open Route

variable {basePath noun segment : String}

/-! ### Where a collection is -/

theorem pathParts_trimSlashes (path : String) :
    pathParts (trimSlashes path).toList = pathParts path.toList := by
  have trimmed (backward : List Char) :
      pathParts (backward.dropWhile (· = '/')).reverse = pathParts backward.reverse := by
    induction backward with
    | nil => rfl
    | cons c rest ih =>
      by_cases slash : c = '/'
      · have nothing : pathParts [] = [] := rfl
        rw [List.dropWhile_cons_of_pos (by simpa using slash), ih, List.reverse_cons, slash,
          pathParts_append_slash, nothing, List.append_nil]
      · rw [List.dropWhile_cons_of_neg (by simpa using slash)]
  rw [trimSlashes, String.toList_ofList, trimmed, List.reverse_reverse]

theorem pathParts_collectionPath (basePath noun : String) :
    pathParts (collectionPath basePath noun).toList =
      pathParts basePath.toList ++ pathParts (Noun.slug noun).toList := by
  have spelled : (collectionPath basePath noun).toList =
      (trimSlashes basePath).toList ++ '/' :: (Noun.slug noun).toList := by
    simp [collectionPath]
  rw [spelled, pathParts_append_slash, pathParts_trimSlashes]

/-- A collection is one segment below the base path, and its routes do not collide with any at the base
path. -/
structure LiesBelow (basePath noun segment : String) : Prop where
  path : normalizePath (collectionPath basePath noun) =
    joinPath ((pathParts basePath.toList).map String.ofList ++ [segment])
  inhabited : segment ≠ ""
  slashless : '/' ∉ segment.toList
  specificity : (Template.parse (itemPath (collectionPath basePath noun))).specificity =
    (Template.parse basePath).specificity + 1
  apart : ∀ (resource : Resource) (route other : Route),
    route ∈ resource.routes (collectionPath basePath noun) →
    other.template = Template.parse basePath →
    route.key ≠ other.key ∧ ∀ path, ¬(route.Fits path ∧ other.Fits path)

section Slug

variable {front : List String} {last : String}

theorem isPart_slug (split : Noun.words noun = front ++ [last]) : IsPart (Noun.slug noun).toList where
  inhabited empty := Noun.slug_ne_empty split (String.toList_eq_nil_iff.mp empty)
  slashless mem := Noun.plain_of_mem_slug split mem (by simp)

theorem parse_collectionPath (split : Noun.words noun = front ++ [last]) (basePath : String) :
    Template.parse (collectionPath basePath noun) =
      Template.parse basePath ++ [.literal (Noun.slug noun)] := by
  have literal : Segment.parse (Noun.slug noun).toList = .literal (Noun.slug noun) := by
    rcases Segment.parse_cases (Noun.slug noun).toList with ⟨name, raw | raw, -⟩ | read
    · exact absurd (Noun.plain_of_mem_slug (d := ':') split (by simp [raw])) (by simp)
    · exact absurd (Noun.plain_of_mem_slug (d := '\x7b') split (by simp [raw])) (by simp)
    · rw [read, String.ofList_toList]
  rw [Template.parse, pathParts_collectionPath, pathParts_of_isPart (isPart_slug split), List.map_append,
    List.map_singleton, literal, Template.parse]

theorem liesBelow_slug (split : Noun.words noun = front ++ [last]) (basePath : String) :
    LiesBelow basePath noun (Noun.slug noun) := by
  have isPart := isPart_slug split
  have whole := parse_collectionPath split basePath
  refine ⟨?_, Noun.slug_ne_empty split, isPart.slashless, ?_, ?_⟩
  · rw [normalizePath, pathParts_collectionPath, pathParts_of_isPart isPart, List.map_append,
      List.map_singleton, String.ofList_toList]
  · rw [parse_itemPath, whole]
    simp only [Template.specificity, List.append_assoc, List.countP_append]
    rfl
  · intro resource route other mem atBase
    refine apart_of_length_ne ?_
    rw [atBase]
    rcases template_of_mem_routes mem with spelled | spelled
    · rw [spelled, whole, List.length_append, List.length_singleton]
      omega
    · rw [spelled, parse_itemPath, whole, List.length_append, List.length_append, List.length_singleton,
        List.length_singleton]
      omega

end Slug

/-- The segment is what the path of the collection has more than the base path. -/
theorem LiesBelow.pathParts_eq (below : LiesBelow basePath noun segment) :
    pathParts (Noun.slug noun).toList = [segment.toList] := by
  have isPart : IsPart segment.toList :=
    ⟨fun empty => below.inhabited (String.toList_eq_nil_iff.mp empty), below.slashless⟩
  have parts : ∀ part ∈ pathParts basePath.toList ++ [segment.toList], IsPart part := by
    intro part mem
    rcases List.mem_append.mp mem with before | here
    · exact isPart_of_mem_pathParts before
    · exact List.mem_singleton.mp here ▸ isPart
  have spelled : (pathParts basePath.toList).map String.ofList ++ [segment] =
      (pathParts basePath.toList ++ [segment.toList]).map String.ofList := by
    rw [List.map_append, List.map_singleton, String.ofList_toList]
  have same := congrArg (fun path => pathParts path.toList) below.path
  simp only [pathParts_normalizePath, pathParts_collectionPath] at same
  rw [spelled, pathParts_joinPath_ofList parts] at same
  exact List.append_cancel_left same

/-- Only a noun of at least one word has a collection below the base path, and the segment is the slug. -/
theorem LiesBelow.eq_slug (below : LiesBelow basePath noun segment) :
    segment = Noun.slug noun ∧ ∃ front last, Noun.words noun = front ++ [last] := by
  have parts := below.pathParts_eq
  rcases List.eq_nil_or_concat' (Noun.words noun) with wordless | ⟨front, last, split⟩
  · have empty : Noun.slug noun = "" := by
      rw [Noun.slug, wordless]
      rfl
    have nothing : pathParts "".toList = [] := rfl
    rw [empty, nothing] at parts
    cases parts
  · rw [pathParts_of_isPart (isPart_slug split)] at parts
    exact ⟨String.toList_inj.mp (List.singleton_inj.mp parts).symm, front, last, split⟩

theorem LiesBelow.words_ne_nil (below : LiesBelow basePath noun segment) : Noun.words noun ≠ [] := by
  obtain ⟨-, front, last, split⟩ := below.eq_slug
  rw [split]
  exact List.concat_ne_nil last front

/-- A collection lies below the base path exactly if its noun has a letter or a number, and then its segment
is in lower case exactly if the last word does not shout. -/
theorem collection_below_iff (basePath noun : String) :
    ((∃ segment, LiesBelow basePath noun segment) ↔
      ∃ c ∈ noun.toList, Text.isAlphanumeric c = true) ∧
    ∀ segment, LiesBelow basePath noun segment →
      (Text.lower segment = segment ↔
        ∀ last ∈ (Noun.words noun).getLast?, Noun.shoutsEnding last = false) := by
  constructor
  · rw [← Noun.words_ne_nil_iff]
    constructor
    · rintro ⟨segment, below⟩
      exact below.words_ne_nil
    · intro worded
      rcases List.eq_nil_or_concat' (Noun.words noun) with wordless | ⟨front, last, split⟩
      · exact absurd wordless worded
      · exact ⟨_, liesBelow_slug split basePath⟩
  · intro segment below
    obtain ⟨rfl, front, last, split⟩ := below.eq_slug
    rw [Noun.lower_slug_eq_self_iff split, split, List.getLast?_concat]
    simp

theorem collection_below_iff_pet : (∃ c ∈ "Pet".toList, Text.isAlphanumeric c = true) ∧
    ∃ segment, LiesBelow "/api" "Pet" segment ∧ Text.lower segment = segment := by
  have word : Noun.words "Pet" = ["pet"] := by decide +kernel
  have letter : ∃ c ∈ "Pet".toList, Text.isAlphanumeric c = true :=
    Noun.words_ne_nil_iff.mp (by simp [word])
  have quiet : Noun.shoutsEnding "pet" = false := by
    rw [Noun.shoutsEnding, Noun.isShouting_eq]
    decide +kernel
  obtain ⟨below, small⟩ := collection_below_iff "/api" "Pet"
  obtain ⟨segment, here⟩ := below.mpr letter
  refine ⟨letter, segment, here, (small segment here).mpr ?_⟩
  rw [word]
  simpa using quiet

/-- Below a base path that is accepted, a noun of punctuation has no segment, and one in a script without
small letters has one that is not in lower case. -/
theorem collection_not_below :
    ({} : Config.Server).validate = .ok () ∧ ({} : Config.Server).basePath = "/api" ∧
    (Text.trim "!!!").isEmpty = false ∧ (¬∃ segment, LiesBelow "/api" "!!!" segment) ∧
    (Text.trim "用户").isEmpty = false ∧ LiesBelow "/api" "用户" (Noun.slug "用户") ∧
    Text.lower (Noun.slug "用户") ≠ Noun.slug "用户" := by
  obtain ⟨marks, wordless, ideographs, split⟩ :
      (Text.trim "!!!").isEmpty = false ∧ Noun.words "!!!" = [] ∧
      (Text.trim "用户").isEmpty = false ∧ Noun.words "用户" = [] ++ ["用户"] := by
    decide +kernel
  have shouting : Noun.shoutsEnding "用户" = true := by
    rw [Noun.shoutsEnding, Noun.isShouting_eq]
    decide +kernel
  refine ⟨rfl, rfl, marks, ?_, ideographs, liesBelow_slug split "/api", ?_⟩
  · rintro ⟨segment, below⟩
    exact below.words_ne_nil wordless
  · rw [Ne, Noun.lower_slug_eq_self_iff split, shouting]
    simp

end Resource

end MockApi
