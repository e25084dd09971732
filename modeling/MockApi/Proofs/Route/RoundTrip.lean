import MockApi.Proofs.Json.Table
import MockApi.Proofs.Route.Matching

/-!
# Values in paths

A value that is written into a path with escapes is read as it was (`unescape_eq_of_escaped`), and slashes
around the parts of a path do not count (`pathParts_of_slashed`). A path that is made from a template and
values is therefore matched with these values, and a path that is matched has the parts that its template
asks for (`matchPath_roundTrip`).
-/

namespace MockApi

namespace Route

/-! ### Percent escapes -/

/-- The digit of an escape, small or capital. -/
def IsDigit (value : Nat) (c : Char) : Prop :=
  c = Nat.digitChar value ∨ c = (Nat.digitChar value).toUpper

/-- Letters, digits and four marks may stand for themselves. -/
def IsPlain (c : Char) : Prop :=
  c.isAlphanum = true ∨ c ∈ ['-', '.', '_', '~']

/-- Bytes as a text, in which each stands for itself, if it may, or is escaped. -/
inductive Escaped : List UInt8 → List Char → Prop
  | nil : Escaped [] []
  | plain {c : Char} {bytes : List UInt8} {text : List Char} (plain : IsPlain c)
      (rest : Escaped bytes text) : Escaped (UInt8.ofNat c.toNat :: bytes) (c :: text)
  | escape {byte : UInt8} {high low : Char} {bytes : List UInt8} {text : List Char}
      (first : IsDigit (byte.toNat / 16) high) (second : IsDigit (byte.toNat % 16) low)
      (rest : Escaped bytes text) : Escaped (byte :: bytes) ('%' :: high :: low :: text)

/-- The bytes of a text. -/
def bytesOf (s : String) : List UInt8 := s.toUTF8.data.toList

variable {c : Char} {bytes : List UInt8} {text part : List Char} {parts : List (List Char)} {value : Nat}

theorem exists_escaped (bytes : List UInt8) : ∃ text, Escaped bytes text := by
  induction bytes with
  | nil => exact ⟨_, .nil⟩
  | cons byte bytes ih =>
    obtain ⟨text, rest⟩ := ih
    exact ⟨_, .escape (.inl rfl) (.inl rfl) rest⟩

theorem hexDigit?_of_isDigit (small : value < 16) (digit : IsDigit value c) :
    Address.hexDigit? c = some value := by
  have both : ∀ value < 16, Address.hexDigit? (Nat.digitChar value) = some value ∧
      Address.hexDigit? (Nat.digitChar value).toUpper = some value := by decide
  rcases digit with rfl | rfl
  · exact (both value small).1
  · exact (both value small).2

theorem IsDigit.ne_slash (small : value < 16) (digit : IsDigit value c) : c ≠ '/' := by
  rintro rfl
  cases hexDigit?_of_isDigit small digit

theorem digits_lt (byte : UInt8) : byte.toNat / 16 < 16 ∧ byte.toNat % 16 < 16 := by
  have small := byte.toNat_lt
  omega

theorem IsPlain.ascii (plain : IsPlain c) : c.toNat < 128 := by
  have word : c.toNat = c.val.toNat := rfl
  have ends : 'Z'.val.toNat = 90 ∧ 'z'.val.toNat = 122 ∧ '9'.val.toNat = 57 := by decide
  rcases plain with plain | mark
  · rcases Bool.or_eq_true_iff.mp plain with letter | digit
    · rcases Bool.or_eq_true_iff.mp letter with capital | small
      · have below := UInt32.le_iff_toNat_le.mp (of_decide_eq_true capital).2
        omega
      · have below := UInt32.le_iff_toNat_le.mp (of_decide_eq_true (Bool.and_eq_true_iff.mp small).2)
        omega
    · have below := UInt32.le_iff_toNat_le.mp (of_decide_eq_true (Bool.and_eq_true_iff.mp digit).2)
      omega
  · simp only [List.mem_cons, List.not_mem_nil, or_false] at mark
    rcases mark with rfl | rfl | rfl | rfl <;> decide

theorem IsPlain.ne {other : Char} (plain : IsPlain c) (special : ¬IsPlain other) : c ≠ other :=
  fun same => special (same ▸ plain)

theorem not_isPlain_slash : ¬IsPlain '/' := by simp [IsPlain]

theorem not_isPlain_percent : ¬IsPlain '%' := by simp [IsPlain]

/-- An ASCII character is one byte. -/
theorem toList_toUTF8_of_ascii (ascii : c.toNat < 128) :
    c.toString.toUTF8.toList = [UInt8.ofNat c.toNat] := by
  have encoded : String.utf8EncodeChar c = [UInt8.ofNat c.toNat] := if_pos (Nat.le_of_lt_succ ascii)
  have bytes : c.toString.toUTF8 = ByteArray.mk #[UInt8.ofNat c.toNat] := by
    rw [String.toUTF8_eq_toByteArray]
    show (String.singleton c).toByteArray = _
    rw [String.toByteArray_singleton, List.utf8Encode, List.flatMap_singleton, encoded]
    rfl
  rw [bytes, ByteArray.toList, ByteArray.toList.loop, ByteArray.toList.loop]
  rfl

theorem unescapeBytes_of_escaped (escaped : Escaped bytes text) : unescapeBytes text = bytes := by
  induction escaped with
  | nil => rfl
  | @plain c bytes text plain rest ih =>
    have ne := plain.ne not_isPlain_percent
    rw [unescapeBytes, toList_toUTF8_of_ascii plain.ascii, ih]
    · rfl
    · rintro a b rest rfl
      exact absurd rfl ne
  | @escape byte high low bytes text first second rest ih =>
    obtain ⟨high16, low16⟩ := digits_lt byte
    have whole : UInt8.ofNat (byte.toNat / 16 * 16 + byte.toNat % 16) = byte := by
      rw [Nat.div_add_mod', UInt8.ofNat_toNat]
    simp only [unescapeBytes, hexDigit?_of_isDigit high16 first, hexDigit?_of_isDigit low16 second, whole, ih]

/-- What is written with escapes is read as it was. -/
theorem unescape_eq_of_escaped {s : String} (escaped : Escaped (bytesOf s) text) : unescape text = s := by
  have read : String.fromUTF8? s.toUTF8 = some s := by
    rw [String.fromUTF8?, String.toUTF8_eq_toByteArray, dif_pos s.isValidUTF8]
    rfl
  have bytes : ByteArray.mk (bytesOf s).toArray = s.toUTF8 := by
    rw [bytesOf, Array.toArray_toList]
  rw [unescape, unescapeBytes_of_escaped escaped, bytes, read, Option.getD_some]

theorem slash_not_mem_of_escaped (escaped : Escaped bytes text) : '/' ∉ text := by
  induction escaped with
  | nil => exact List.not_mem_nil
  | plain plain rest ih =>
    exact List.not_mem_cons_of_ne_of_not_mem (plain.ne not_isPlain_slash).symm ih
  | @escape byte high low bytes text first second rest ih =>
    obtain ⟨high16, low16⟩ := digits_lt byte
    simp [ih, (first.ne_slash high16).symm, (second.ne_slash low16).symm]

theorem isPart_of_escaped {s : String} (inhabited : s ≠ "") (escaped : Escaped (bytesOf s) text) :
    IsPart text where
  inhabited := by
    rintro rfl
    have read : unescape [] = "" := by decide
    exact inhabited ((unescape_eq_of_escaped escaped).symm.trans read)
  slashless := slash_not_mem_of_escaped escaped

/-! ### Slashes -/

/-- A path with these parts between slashes, of which there may be more than it needs. -/
inductive Slashed : List (List Char) → List Char → Prop
  | nil : Slashed [] []
  | last (part : List Char) : Slashed [part] part
  | slash {parts : List (List Char)} {path : List Char} (rest : Slashed parts path) :
      Slashed parts ('/' :: path)
  | part {part : List Char} {parts : List (List Char)} {path : List Char} (rest : Slashed parts path) :
      Slashed (part :: parts) (part ++ '/' :: path)

theorem pathParts_slash (path : List Char) : pathParts ('/' :: path) = pathParts path := by
  rw [pathParts, Text.splitOn, if_pos rfl, List.filter_cons_of_neg (by simp), pathParts]

theorem pathParts_part (isPart : IsPart part) (path : List Char) :
    pathParts (part ++ '/' :: path) = part :: pathParts path := by
  rw [pathParts, Text.splitOn_append isPart.slashless,
    List.filter_cons_of_pos (by simpa using isPart.inhabited), pathParts]

theorem pathParts_of_slashed {path : List Char} (areParts : ∀ part ∈ parts, IsPart part)
    (slashed : Slashed parts path) : pathParts path = parts := by
  induction slashed with
  | nil => rfl
  | last part =>
    have isPart := areParts part List.mem_cons_self
    rw [pathParts, Text.splitOn_of_not_mem isPart.slashless,
      List.filter_cons_of_pos (by simpa using isPart.inhabited), List.filter_nil]
  | slash rest ih => rw [pathParts_slash, ih areParts]
  | part rest ih =>
    rw [pathParts_part (areParts _ List.mem_cons_self), ih fun part mem => areParts part (.tail _ mem)]

/-- Every path is its parts between slashes. -/
theorem slashed_pathParts (path : List Char) : Slashed (pathParts path) path := by
  by_cases slash : '/' ∈ path
  · obtain ⟨first, rest, whole, slashless⟩ := List.eq_append_cons_of_mem slash
    have shorter : rest.length < path.length := by
      rw [whole, List.length_append, List.length_cons]
      omega
    have ih := slashed_pathParts rest
    rw [whole]
    cases first with
    | nil =>
      rw [List.nil_append, pathParts_slash]
      exact .slash ih
    | cons c first =>
      rw [pathParts_part ⟨by simp, slashless⟩]
      exact .part ih
  · rw [pathParts, Text.splitOn_of_not_mem slash]
    cases path with
    | nil => exact .nil
    | cons c path => exact .last _
termination_by path.length

/-! ### Segments -/

/-- A part that stands for a segment if the parameters have these values. -/
def Segment.Writes (values : String → String) : Segment → List Char → Prop
  | literal s, part => part = s.toList
  | param name, part => Escaped (bytesOf (values name)) part

theorem Segment.Writes.accepts {values : String → String} {segment : Segment}
    (writes : segment.Writes values part) : segment.Accepts part := by
  cases segment with
  | literal s => exact Eq.symm writes
  | param name => trivial

end Route

namespace Template

open Route

variable {t : Template} {parts : List (List Char)} {values : String → String}

/-- The values of the parameters, read from the parts that stand for them. -/
def readings : Template → List (List Char) → List (String × String)
  | .literal _ :: t, _ :: parts => readings t parts
  | .param name :: t, part :: parts => (name, unescape part) :: readings t parts
  | _, _ => []

theorem matchParts_eq_some_iff {entries : List (String × String)} :
    t.matchParts parts = some entries ↔
      List.Forall₂ Segment.Accepts t parts ∧ entries = readings t parts := by
  induction t generalizing parts entries with
  | nil => cases parts <;> simp [matchParts, readings, eq_comm]
  | cons segment t ih =>
    cases parts with
    | nil => cases segment <;> simp [matchParts]
    | cons part parts =>
      cases segment with
      | literal s =>
        by_cases same : s.toList = part <;> simp [matchParts, Segment.Accepts, readings, same, ih]
      | param name =>
        rw [matchParts, Option.map_eq_some_iff, List.forall₂_cons, readings]
        constructor
        · rintro ⟨rest, found, rfl⟩
          obtain ⟨accepts, rfl⟩ := ih.mp found
          exact ⟨⟨trivial, accepts⟩, rfl⟩
        · rintro ⟨⟨-, accepts⟩, rfl⟩
          exact ⟨_, ih.mpr ⟨accepts, rfl⟩, rfl⟩

theorem matchPath_eq_some_iff {path : String} {params : Table String} :
    t.matchPath path = some params ↔
      List.Forall₂ Segment.Accepts t (pathParts path.toList) ∧
        params = Table.ofList (t.readings (pathParts path.toList)) := by
  rw [matchPath, Option.map_eq_some_iff]
  constructor
  · rintro ⟨entries, found, rfl⟩
    obtain ⟨accepts, rfl⟩ := matchParts_eq_some_iff.mp found
    exact ⟨accepts, rfl⟩
  · rintro ⟨accepts, rfl⟩
    exact ⟨_, matchParts_eq_some_iff.mpr ⟨accepts, rfl⟩, rfl⟩

/-- A value is read for each parameter. -/
theorem names_readings (accepts : List.Forall₂ Segment.Accepts t parts) :
    (t.readings parts).map (·.1) = t.params := by
  induction accepts with
  | nil => rfl
  | @cons segment part t parts first rest ih =>
    cases segment with
    | literal s => exact ih
    | param name => exact congrArg (name :: ·) ih

/-- What was written is read. -/
theorem readings_of_writes (writes : List.Forall₂ (Segment.Writes values) t parts) :
    t.readings parts = t.params.map fun name => (name, values name) := by
  induction writes with
  | nil => rfl
  | @cons segment part t parts first rest ih =>
    cases segment with
    | literal s => exact ih
    | param name =>
      show (name, unescape part) :: readings t parts = (name, values name) :: _
      rw [unescape_eq_of_escaped first, ih]
      rfl

theorem getElem?_of_literal {i : Nat} {text : String}
    (accepts : List.Forall₂ Segment.Accepts t parts) (literal : t[i]? = some (.literal text)) :
    parts[i]? = some text.toList := by
  induction accepts generalizing i with
  | nil => cases literal
  | cons first rest ih =>
    cases i with
    | zero =>
      cases literal
      exact congrArg some (Eq.symm first)
    | succ i => exact ih literal

theorem isPart_of_literal_mem {path text : String} (mem : Segment.literal text ∈ parse path) :
    IsPart text.toList := by
  obtain ⟨raw, part, read⟩ := List.mem_map.mp (show _ ∈ List.map Segment.parse _ from mem)
  have written := Segment.isPart_text_parse (isPart_of_mem_pathParts part)
  rwa [read] at written

/-- What values are written as is a list of parts, if there is something of each. -/
theorem isPart_of_writes (literals : ∀ text, Segment.literal text ∈ t → IsPart text.toList)
    (inhabited : ∀ name ∈ t.params, values name ≠ "")
    (writes : List.Forall₂ (Segment.Writes values) t parts) : ∀ part ∈ parts, IsPart part := by
  induction writes with
  | nil => nofun
  | @cons segment part t parts first rest ih =>
    rw [List.forall_mem_cons]
    cases segment with
    | literal text =>
      refine ⟨?_, ih (fun text mem => literals text (.tail _ mem)) inhabited⟩
      rw [show part = text.toList from first]
      exact literals text List.mem_cons_self
    | param name =>
      obtain ⟨own, others⟩ := List.forall_mem_cons.mp inhabited
      exact ⟨isPart_of_escaped own first, ih (fun text mem => literals text (.tail _ mem)) others⟩

theorem exists_writes (t : Template) (values : String → String) :
    ∃ parts, List.Forall₂ (Segment.Writes values) t parts := by
  induction t with
  | nil => exact ⟨_, .nil⟩
  | cons segment t ih =>
    obtain ⟨parts, rest⟩ := ih
    cases segment with
    | literal text => exact ⟨_, .cons rfl rest⟩
    | param name =>
      obtain ⟨part, first⟩ := exists_escaped (bytesOf (values name))
      exact ⟨_, .cons first rest⟩

end Template

namespace Route

open Template

/-- For all values of its parameters that are not empty a template can be written as a path, and with any
further slashes the path is matched, with these values and no others. Whatever path is matched has as many
parts as the template has segments, of which those in the place of literal segments are the same, and
exactly the parameters of the template get values. -/
theorem matchPath_roundTrip (route : Route) :
    (∀ values : String → String, (∀ name ∈ route.template.params, values name ≠ "") →
      (∃ parts, List.Forall₂ (Segment.Writes values) route.template parts) ∧
      ∀ parts (path : String), List.Forall₂ (Segment.Writes values) route.template parts →
        Slashed parts path.toList →
        ∃ params, route.template.matchPath path = some params ∧
          ∀ name, Table.get? params name =
            if name ∈ route.template.params then some (values name) else none) ∧
    ∀ path params, route.template.matchPath path = some params →
      ∃ parts, (∀ part ∈ parts, IsPart part) ∧ Slashed parts path.toList ∧
        parts.length = route.template.length ∧
        (∀ (i : Nat) text, route.template[i]? = some (.literal text) → parts[i]? = some text.toList) ∧
        ∀ name, name ∈ Table.names params ↔ name ∈ route.template.params := by
  refine ⟨fun values inhabited => ⟨exists_writes _ values, fun parts path writes slashed => ?_⟩,
    fun path params found => ?_⟩
  · have areParts := isPart_of_writes (fun text => isPart_of_literal_mem) inhabited writes
    have read : pathParts path.toList = parts := pathParts_of_slashed areParts slashed
    have accepts : List.Forall₂ Segment.Accepts route.template parts :=
      writes.imp fun _ _ => Segment.Writes.accepts
    refine ⟨_, matchPath_eq_some_iff.mpr ⟨read.symm ▸ accepts, rfl⟩, fun name => ?_⟩
    rw [read, readings_of_writes writes, Table.get?_ofList_map]
  · obtain ⟨accepts, rfl⟩ := matchPath_eq_some_iff.mp found
    refine ⟨_, fun part => isPart_of_mem_pathParts, slashed_pathParts _, accepts.length_eq.symm,
      fun i text literal => ?_, fun name => ?_⟩
    · exact getElem?_of_literal accepts literal
    · rw [Table.mem_names_ofList, Table.names, names_readings accepts]

/-- A route with two parameters, and values that cannot stand in a path as they are. -/
def shopItem : Route := .ofPath .get "/shops/:shop//items/\x7bitem\x7d/" (.literal .null)

def shopValues (name : String) : String := if name = "shop" then "/%" else "é~"

theorem matchPath_roundTrip_shopItem :
    (∃ params, shopItem.template.matchPath "//shops/%2f%25/items//%C3%a9~" = some params ∧
      Table.get? params "shop" = some "/%" ∧ Table.get? params "item" = some "é~" ∧
      Table.get? params "id" = none) ∧
    ∃ parts, Slashed parts "shops/a%/items/b+c/".toList ∧ parts[0]? = some "shops".toList ∧
      parts[2]? = some "items".toList ∧ parts.length = 4 := by
  obtain ⟨fills, reads⟩ := matchPath_roundTrip shopItem
  have template : shopItem.template =
      [.literal "shops", .param "shop", .literal "items", .param "item"] := by decide +kernel
  have params : shopItem.template.params = ["shop", "item"] := by rw [template]; rfl
  have shop : Escaped (bytesOf "/%") "%2f%25".toList := by
    rw [show bytesOf "/%" = [0x2f, 0x25] by decide +kernel]
    exact .escape (.inl rfl) (.inl rfl) (.escape (.inl rfl) (.inl rfl) .nil)
  have item : Escaped (bytesOf "é~") "%C3%a9~".toList := by
    rw [show bytesOf "é~" = [0xc3, 0xa9, 0x7e] by decide +kernel]
    exact .escape (.inr rfl) (.inl rfl) (.escape (.inl rfl) (.inl rfl)
      (.plain (c := '~') (.inr (by decide)) .nil))
  constructor
  · obtain ⟨-, matched⟩ := fills shopValues (by rw [params]; decide)
    obtain ⟨found, is, values⟩ := matched
      ["shops".toList, "%2f%25".toList, "items".toList, "%C3%a9~".toList] "//shops/%2f%25/items//%C3%a9~"
      (by rw [template]; exact .cons rfl (.cons shop (.cons rfl (.cons item .nil))))
      (.slash (.slash (.part (.part (.part (.slash (.last _)))))))
    refine ⟨found, is, ?_, ?_, ?_⟩ <;> rw [values, params] <;> decide
  · have accepted : (shopItem.template.matchPath "shops/a%/items/b+c/").isSome = true := by decide +kernel
    obtain ⟨found, is⟩ := Option.isSome_iff_exists.mp accepted
    obtain ⟨parts, -, slashed, length, literals, -⟩ := reads _ found is
    rw [template] at length literals
    exact ⟨parts, slashed, literals 0 _ rfl, literals 2 _ rfl, length⟩

end Route

end MockApi
