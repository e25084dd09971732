import MockApi.Json.Reader
import MockApi.Proofs.Json.Table
import MockApi.Validation

/-!
# Names and nesting of values

A container is one level deeper than the deepest of its parts, and a part is less deep than the whole. Tables that are put
together are no deeper than the deepest of them. The members of an object have one name each. That is so of every value
that is read from a text (`namesDistinct_of_read`), whatever stands twice in the text.
-/

namespace MockApi.Json

variable {elements : List Json} {members : List (String × Json)} {limit : Nat}

theorem nestingElements_le_iff :
    nestingElements elements ≤ limit ↔ ∀ element ∈ elements, element.nesting ≤ limit := by
  induction elements with
  | nil => simp [nestingElements]
  | cons first rest ih => rw [nestingElements, Nat.max_le, ih, List.forall_mem_cons]

theorem nestingMembers_le_iff :
    nestingMembers members ≤ limit ↔ ∀ entry ∈ members, entry.2.nesting ≤ limit := by
  induction members with
  | nil => simp [nestingMembers]
  | cons first rest ih => rw [nestingMembers, Nat.max_le, ih, List.forall_mem_cons]

theorem nesting_array_le (each : ∀ element ∈ elements, element.nesting ≤ limit) :
    (array elements).nesting ≤ limit + 1 := by
  have inner := nestingElements_le_iff.mpr each
  rw [nesting]
  omega

theorem nesting_object_le (each : ∀ entry ∈ members, entry.2.nesting ≤ limit) :
    (object members).nesting ≤ limit + 1 := by
  have inner := nestingMembers_le_iff.mpr each
  rw [nesting]
  omega

theorem nesting_element_lt {element : Json} (mem : element ∈ elements) :
    element.nesting < (array elements).nesting := by
  have inner := nestingElements_le_iff.mp (Nat.le_refl _) element mem
  rw [nesting]
  omega

theorem nesting_member_lt {entry : String × Json} (mem : entry ∈ members) :
    entry.2.nesting < (object members).nesting := by
  have inner := nestingMembers_le_iff.mp (Nat.le_refl _) entry mem
  rw [nesting]
  omega

end MockApi.Json

namespace MockApi.Table

variable {α : Type} {P : String × α → Prop}

theorem forall_mem_overlay {lower upper : Table α} (below : ∀ entry ∈ lower, P entry)
    (above : ∀ entry ∈ upper, P entry) : ∀ entry ∈ overlay lower upper, P entry := by
  induction upper generalizing lower with
  | nil => exact below
  | cons entry rest ih =>
    obtain ⟨first, others⟩ := List.forall_mem_cons.mp above
    refine ih (fun other mem => ?_) others
    rcases mem_insert mem with rfl | mem
    · exact first
    · exact below other mem

/-- What holds of the entries of some tables holds of those of the tables over one another. -/
theorem forall_mem_foldl_overlay {lower : Table α} {tables : List (Table α)}
    (below : ∀ entry ∈ lower, P entry) (each : ∀ table ∈ tables, ∀ entry ∈ table, P entry) :
    ∀ entry ∈ tables.foldl overlay lower, P entry := by
  induction tables generalizing lower with
  | nil => exact below
  | cons table rest ih =>
    obtain ⟨first, others⟩ := List.forall_mem_cons.mp each
    exact ih (forall_mem_overlay below first) others

end MockApi.Table

namespace MockApi

namespace Table

variable {α : Type}

theorem ascending_ofList (entries : List (String × α)) : (ofList entries).Ascending := by
  induction entries using List.reverseRecOn with
  | nil => exact List.Pairwise.nil
  | append_singleton entries entry ih =>
    rw [ofList, overlay_concat, ← ofList]
    exact ascending_insert ih entry.1 entry.2

theorem Ascending.nodup_names {table : Table α} (ascending : table.Ascending) :
    (names table).Nodup := by
  rw [names, List.nodup_iff_pairwise_ne, List.pairwise_map]
  exact ascending.imp fun below => Std.ne_of_lt below

theorem mem_ofList {entries : List (String × α)} {entry : String × α} (mem : entry ∈ ofList entries) :
    entry ∈ entries := by
  induction entries using List.reverseRecOn with
  | nil => exact mem
  | append_singleton entries last ih =>
    rw [ofList, overlay_concat, ← ofList] at mem
    rcases mem_insert mem with rfl | mem
    · exact List.mem_append_right _ List.mem_cons_self
    · exact List.mem_append_left _ (ih mem)

end Table

namespace Json

mutual

/-- No object inside the value has two members of one name. -/
def NamesDistinct : Json → Prop
  | .array elements => NamesDistinctElements elements
  | .object members => (Table.names members).Nodup ∧ NamesDistinctMembers members
  | _ => True

def NamesDistinctElements : List Json → Prop
  | [] => True
  | x :: rest => NamesDistinct x ∧ NamesDistinctElements rest

def NamesDistinctMembers : List (String × Json) → Prop
  | [] => True
  | (_, x) :: rest => NamesDistinct x ∧ NamesDistinctMembers rest

end

theorem namesDistinctMembers_iff {members : List (String × Json)} :
    NamesDistinctMembers members ↔ ∀ entry ∈ members, entry.2.NamesDistinct := by
  induction members with
  | nil => simp [NamesDistinctMembers]
  | cons first rest ih => rw [NamesDistinctMembers, ih, List.forall_mem_cons]

mutual

/-- Listing the members by name leaves one of each name, at every depth. -/
theorem namesDistinct_normalize : (value : Json) → value.normalize.NamesDistinct
  | .array elements => by
    rw [normalize, NamesDistinct]
    exact namesDistinct_normalizeElements elements
  | .object members => by
    rw [normalize, NamesDistinct, namesDistinctMembers_iff]
    exact ⟨(Table.ascending_ofList _).nodup_names, fun entry mem =>
      namesDistinct_normalizeMembers members entry (Table.mem_ofList mem)⟩
  | .null | .bool _ | .number _ | .string _ => by simp [normalize, NamesDistinct]

theorem namesDistinct_normalizeElements :
    (elements : List Json) → NamesDistinctElements (normalizeElements elements)
  | [] => by simp [normalizeElements, NamesDistinctElements]
  | x :: rest => by
    rw [normalizeElements, NamesDistinctElements]
    exact ⟨namesDistinct_normalize x, namesDistinct_normalizeElements rest⟩

theorem namesDistinct_normalizeMembers :
    (members : List (String × Json)) → ∀ entry ∈ normalizeMembers members, entry.2.NamesDistinct
  | [] => by simp [normalizeMembers]
  | (name, x) :: rest => by
    rw [normalizeMembers, List.forall_mem_cons]
    exact ⟨namesDistinct_normalize x, namesDistinct_normalizeMembers rest⟩

end

theorem namesDistinct_of_read {text : String} {value : Json} (made : read text = some value) :
    value.NamesDistinct := by
  obtain ⟨raw, -, rfl⟩ := Option.map_eq_some_iff.mp made
  exact namesDistinct_normalize raw

/-- A member of a value without doubled names is such a value. -/
theorem NamesDistinct.member {value inner : Json} {name : String} (distinct : value.NamesDistinct)
    (found : value.member? name = some inner) : inner.NamesDistinct := by
  cases value with
  | object members =>
    rw [NamesDistinct, namesDistinctMembers_iff] at distinct
    exact distinct.2 (name, inner) (Validation.get?_mem found)
  | _ => cases found

end Json

end MockApi
