import Mathlib.Data.List.Forall2
import MockApi.Route.Template

/-!
# Templates written in one way

A template that was read from a path and written in the one way is read back (`parse_text`), so that
templates differ exactly when their texts do. What one segment may be written as instead is listed in
`Respelled`; two paths are the same template exactly if their parts are the same up to that
(`parse_eq_parse_iff`).
-/

namespace MockApi

namespace Text

variable {separator : Char} {s : List Char}

theorem splitOn_ne_nil (separator : Char) (s : List Char) : splitOn separator s ≠ [] := by
  cases s with
  | nil => simp [splitOn]
  | cons c rest =>
    rw [splitOn]
    split
    · simp
    · split <;> simp

theorem splitOn_of_not_mem (free : separator ∉ s) : splitOn separator s = [s] := by
  induction s with
  | nil => rfl
  | cons c rest ih =>
    rw [List.mem_cons, not_or] at free
    rw [splitOn, if_neg (Ne.symm free.1), ih free.2]

/-- A text is split at a separator, and on both sides of it. -/
theorem splitOn_append_separator (s rest : List Char) :
    splitOn separator (s ++ separator :: rest) = splitOn separator s ++ splitOn separator rest := by
  induction s with
  | nil => simp [splitOn]
  | cons c s ih =>
    rw [List.cons_append, splitOn, splitOn, ih]
    by_cases same : c = separator
    · rw [if_pos same, if_pos same, List.cons_append]
    · rw [if_neg same, if_neg same]
      cases pieces : splitOn separator s with
      | nil => exact absurd pieces (splitOn_ne_nil separator s)
      | cons piece pieces => rfl

theorem splitOn_append (free : separator ∉ s) (rest : List Char) :
    splitOn separator (s ++ separator :: rest) = s :: splitOn separator rest := by
  rw [splitOn_append_separator, splitOn_of_not_mem free, List.singleton_append]

theorem not_mem_of_mem_splitOn {piece : List Char} (mem : piece ∈ splitOn separator s) :
    separator ∉ piece := by
  induction s generalizing piece with
  | nil =>
    rw [List.mem_singleton.mp mem]
    exact List.not_mem_nil
  | cons c rest ih =>
    rw [splitOn] at mem
    by_cases same : c = separator
    · rw [if_pos same] at mem
      rcases List.mem_cons.mp mem with rfl | mem
      · exact List.not_mem_nil
      · exact ih mem
    · rw [if_neg same] at mem
      cases pieces : splitOn separator rest with
      | nil => exact absurd pieces (splitOn_ne_nil separator rest)
      | cons first others =>
        rw [pieces] at mem ih
        rcases List.mem_cons.mp mem with rfl | mem
        · exact List.not_mem_cons_of_ne_of_not_mem (Ne.symm same) (ih List.mem_cons_self)
        · exact ih (List.mem_cons_of_mem _ mem)

theorem dropFinish_singleton {c : Char} {rest : List Char} :
    dropFinish [c] s = some rest ↔ s = rest ++ [c] := by
  rw [← List.reverse_inj, List.reverse_append, dropFinish]
  cases s.reverse with
  | nil => simp [dropStart]
  | cons last before =>
    by_cases same : c = last
    · simp [dropStart, same, List.reverse_eq_iff]
    · simp [dropStart, same, Ne.symm same]

end Text

namespace Route

/-! ### Parts of a path -/

/-- What stands between two slashes. -/
structure IsPart (part : List Char) : Prop where
  inhabited : part ≠ []
  slashless : '/' ∉ part

theorem isPart_of_mem_pathParts {path part : List Char} (mem : part ∈ pathParts path) :
    IsPart part := by
  obtain ⟨piece, inhabited⟩ := List.mem_filter.mp mem
  exact ⟨by simpa using inhabited, Text.not_mem_of_mem_splitOn piece⟩

theorem splitOn_joinWith {first : String} {others : List String}
    (parts : ∀ part ∈ first :: others, '/' ∉ part.toList) :
    Text.splitOn '/' (Text.joinWith "/" (first :: others)).toList =
      (first :: others).map String.toList := by
  induction others generalizing first with
  | nil => exact Text.splitOn_of_not_mem (parts first List.mem_cons_self)
  | cons second others ih =>
    have joined : (Text.joinWith "/" (first :: second :: others)).toList =
        first.toList ++ '/' :: (Text.joinWith "/" (second :: others)).toList := by
      simp [Text.joinWith]
    rw [joined, Text.splitOn_append (parts first List.mem_cons_self),
      ih fun part mem => parts part (List.mem_cons_of_mem _ mem)]
    rfl

/-- The parts of a path that was joined from parts are these parts. -/
theorem pathParts_joinPath {parts : List String} (areParts : ∀ part ∈ parts, IsPart part.toList) :
    pathParts (joinPath parts).toList = parts.map String.toList := by
  have slash : (joinPath parts).toList = '/' :: (Text.joinWith "/" parts).toList := by
    simp [joinPath]
  rw [pathParts, slash, Text.splitOn, if_pos rfl, List.filter_cons_of_neg (by simp)]
  cases parts with
  | nil => rfl
  | cons first others =>
    rw [splitOn_joinWith fun part mem => (areParts part mem).slashless]
    refine List.filter_eq_self.mpr fun chars written => ?_
    obtain ⟨part, mem, rfl⟩ := List.mem_map.mp written
    simpa using (areParts part mem).inhabited

theorem pathParts_joinPath_ofList {parts : List (List Char)} (areParts : ∀ part ∈ parts, IsPart part) :
    pathParts (joinPath (parts.map String.ofList)).toList = parts := by
  have texts : ∀ part ∈ parts.map String.ofList, IsPart part.toList := by
    intro part written
    obtain ⟨raw, mem, rfl⟩ := List.mem_map.mp written
    rw [String.toList_ofList]
    exact areParts raw mem
  rw [pathParts_joinPath texts, List.map_map]
  exact (List.map_congr_left fun part _ => String.toList_ofList).trans (List.map_id _)

/-- A path that is normalized has the parts that it had. -/
theorem pathParts_normalizePath (path : String) :
    pathParts (normalizePath path).toList = pathParts path.toList := by
  rw [normalizePath, pathParts_joinPath_ofList fun part => isPart_of_mem_pathParts]

/-! ### Segments -/

/-- One part is another, or both are the parameter of one name in its two spellings. -/
inductive Respelled (part other : List Char) : Prop
  | same (equal : part = other)
  | braced (name : List Char) (left : part = ':' :: name) (right : other = '\x7b' :: name ++ ['\x7d'])
  | unbraced (name : List Char) (left : part = '\x7b' :: name ++ ['\x7d']) (right : other = ':' :: name)

namespace Segment

variable {raw : List Char}

theorem braced?_eq_some {name : List Char} :
    braced? raw = some name ↔ raw = '\x7b' :: name ++ ['\x7d'] := by
  unfold braced?
  split
  · rw [Text.dropFinish_singleton]
    simp
  · rename_i other
    constructor
    · nofun
    · intro same
      exact absurd same (other _)

theorem parse_colon (name : List Char) : parse (':' :: name) = .param (String.ofList name) := rfl

theorem parse_braces (name : List Char) :
    parse ('\x7b' :: name ++ ['\x7d']) = .param (String.ofList name) := by
  have braced : braced? ('\x7b' :: name ++ ['\x7d']) = some name := braced?_eq_some.mpr rfl
  unfold parse
  split
  · rename_i colon
    cases colon
  · rw [braced]

/-- A part is a parameter in one of its two spellings, or stands for itself. -/
theorem parse_cases (raw : List Char) :
    (∃ name, (raw = ':' :: name ∨ raw = '\x7b' :: name ++ ['\x7d']) ∧
      parse raw = .param (String.ofList name)) ∨
    parse raw = .literal (String.ofList raw) := by
  unfold parse
  split
  · exact .inl ⟨_, .inl rfl, rfl⟩
  · split
    · rename_i name braced
      exact .inl ⟨name, .inr (braced?_eq_some.mp braced), rfl⟩
    · exact .inr rfl

theorem parse_eq_parse_iff {part other : List Char} :
    parse part = parse other ↔ Respelled part other := by
  constructor
  · intro same
    rcases parse_cases part with ⟨name, left, read⟩ | read <;>
      rcases parse_cases other with ⟨name', right, read'⟩ | read' <;>
      rw [read, read'] at same
    · obtain rfl := String.ofList_injective (Segment.param.inj same)
      rcases left with left | left <;> rcases right with right | right
      · exact .same (left.trans right.symm)
      · exact .braced name left right
      · exact .unbraced name left right
      · exact .same (left.trans right.symm)
    · cases same
    · cases same
    · exact .same (String.ofList_injective (Segment.literal.inj same))
  · rintro (rfl | ⟨name, rfl, rfl⟩ | ⟨name, rfl, rfl⟩)
    · rfl
    · rw [parse_colon, parse_braces]
    · rw [parse_colon, parse_braces]

/-- A segment that was read is written as a part of a path that is read as it. -/
theorem isPart_text_parse (part : IsPart raw) : IsPart (parse raw).text.toList := by
  have braces (name : List Char) (slashless : '/' ∉ name) :
      IsPart (Segment.param (String.ofList name)).text.toList := by
    constructor <;> simp [text, slashless]
  rcases parse_cases raw with ⟨name, rfl | rfl, read⟩ | read
  · rw [read]
    exact braces name fun mem => part.slashless (List.mem_cons_of_mem _ mem)
  · rw [read]
    exact braces name fun mem => part.slashless (by simp [mem])
  · rw [read]
    simpa [text] using part

theorem parse_text (raw : List Char) : parse (parse raw).text.toList = parse raw := by
  rcases parse_cases raw with ⟨name, -, read⟩ | read
  · have written : (Segment.param (String.ofList name)).text.toList = '\x7b' :: name ++ ['\x7d'] := by
      simp [text]
    rw [read, written, parse_braces]
  · rw [read, text, String.toList_ofList, read]

end Segment

end Route

namespace Template

open Route

theorem parse_text (path : String) : parse (parse path).text = parse path := by
  have areParts : ∀ part ∈ (parse path).map Segment.text, IsPart part.toList := by
    intro part written
    obtain ⟨segment, read, rfl⟩ := List.mem_map.mp written
    obtain ⟨raw, mem, rfl⟩ := List.mem_map.mp (show segment ∈ List.map Segment.parse _ from read)
    exact Segment.isPart_text_parse (isPart_of_mem_pathParts mem)
  rw [parse, text, pathParts_joinPath areParts, parse, List.map_map, List.map_map, List.map_map]
  exact List.map_congr_left fun raw _ => Segment.parse_text raw

/-- A path is normalized without a change to what is read from it. -/
theorem parse_normalizePath (path : String) : parse (normalizePath path) = parse path := by
  rw [parse, pathParts_normalizePath, parse]

/-- Templates that were read have the same text only if they are the same. -/
theorem text_parse_inj {path other : String} :
    (parse path).text = (parse other).text ↔ parse path = parse other := by
  constructor
  · intro same
    rw [← parse_text path, same, parse_text other]
  · intro same
    rw [same]

theorem parse_eq_parse_iff {path other : String} :
    parse path = parse other ↔
      List.Forall₂ Respelled (pathParts path.toList) (pathParts other.toList) := by
  have eq_iff (parts others : List (List Char)) : parts.map Segment.parse = others.map Segment.parse ↔
      List.Forall₂ Respelled parts others := by
    induction parts generalizing others with
    | nil => cases others <;> simp
    | cons part parts ih =>
      cases others with
      | nil => simp
      | cons other others => simp [ih, Segment.parse_eq_parse_iff]
  exact eq_iff _ _

end Template

end MockApi
