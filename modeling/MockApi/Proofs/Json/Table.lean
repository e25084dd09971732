import MockApi.Json
import Mathlib.Data.List.Induction

/-!
# Tables of entries

Of the entries that a table is made of, the last under a name is found under it (`get?_ofList_append`), and
of two tables one over the other, what the upper one has (`get?_overlay`). What some entries set in a table
(`Sets`) and tables with related values under the same names (`Rel`) are told by what is found under a name.
-/

namespace MockApi.Table

variable {α β : Type}

theorem get?_cons_self (name : String) (value : α) (rest : Table α) :
    get? ((name, value) :: rest) name = some value := by
  simp [get?]

theorem get?_cons_of_ne {name other : String} (value : α) (rest : Table α) (h : other ≠ name) :
    get? ((name, value) :: rest) other = get? rest other := by
  simp [get?, h.symm]

theorem get?_eq_none_iff {table : Table α} {name : String} :
    get? table name = none ↔ name ∉ names table := by
  induction table with
  | nil => simp [get?, names]
  | cons entry rest ih =>
    obtain ⟨key, value⟩ := entry
    have names_cons : names ((key, value) :: rest) = key :: names rest := rfl
    rw [names_cons, List.mem_cons, not_or]
    by_cases same : name = key
    · simp [same, get?_cons_self]
    · rw [get?_cons_of_ne value rest same, ih]
      exact ⟨fun absent => ⟨same, absent⟩, And.right⟩

theorem mem_names_of_get? {table : Table α} {name : String} {value : α}
    (found : get? table name = some value) : name ∈ names table := by
  by_contra absent
  rw [get?_eq_none_iff.mpr absent] at found
  cases found

/-! ### Tables that are put together -/

theorem overlay_concat (base : Table α) (entries : List (String × α)) (entry : String × α) :
    overlay base (entries ++ [entry]) = insert (overlay base entries) entry.1 entry.2 :=
  List.foldl_append

/-- What is put over a table decides where it has an entry, the last under each name. -/
theorem get?_overlay_ofList (lower : Table α) (upper : List (String × α)) (name : String) :
    get? (overlay lower upper) name = (get? (ofList upper) name).or (get? lower name) := by
  induction upper using List.reverseRecOn with
  | nil => rfl
  | append_singleton entries entry ih =>
    rw [overlay_concat, ofList, overlay_concat, ← ofList]
    by_cases same : name = entry.1
    · subst same
      rw [get?_insert_self, get?_insert_self]
      rfl
    · rw [get?_insert_of_ne _ _ same, get?_insert_of_ne _ _ same, ih]

theorem get?_ofList_append (entries more : List (String × α)) (name : String) :
    get? (ofList (entries ++ more)) name =
      (get? (ofList more) name).or (get? (ofList entries) name) := by
  rw [← get?_overlay_ofList]
  exact congrArg (get? · name) List.foldl_append

theorem get?_ofList_eq_none {entries : List (String × α)} {name : String}
    (absent : name ∉ names entries) : get? (ofList entries) name = none := by
  induction entries with
  | nil => rfl
  | cons entry rest ih =>
    obtain ⟨other, absent⟩ := not_or.mp (List.mem_cons.not.mp absent)
    rw [← List.singleton_append, get?_ofList_append, ih absent, Option.none_or]
    exact get?_insert_of_ne [] entry.2 other

/-- A table that is made of entries has the names of the entries. -/
theorem mem_names_ofList {entries : List (String × α)} {name : String} :
    name ∈ names (ofList entries) ↔ name ∈ names entries := by
  induction entries using List.reverseRecOn with
  | nil => exact Iff.rfl
  | append_singleton entries entry ih =>
    have names_concat : names (entries ++ [entry]) = names entries ++ [entry.1] := List.map_append
    rw [names_concat, List.mem_append, List.mem_singleton, ← ih, ← not_iff_not, not_or,
      ← get?_eq_none_iff, ← get?_eq_none_iff, ofList, overlay_concat, ← ofList]
    by_cases same : name = entry.1
    · simp [same, get?_insert_self]
    · simp [same, get?_insert_of_ne]

/-- A table of values that are given by their names. -/
theorem get?_ofList_map (f : String → α) (given : List String) (name : String) :
    get? (ofList (given.map fun name => (name, f name))) name =
      if name ∈ given then some (f name) else none := by
  induction given using List.reverseRecOn with
  | nil => rfl
  | append_singleton given last ih =>
    rw [List.map_append, List.map_singleton, ofList, overlay_concat, ← ofList]
    by_cases same : name = last
    · simp [same, get?_insert_self]
    · rw [get?_insert_of_ne _ _ same, ih]
      simp [same]

theorem get?_ofList_of_nodup {table : Table α} (distinct : (names table).Nodup) (name : String) :
    get? (ofList table) name = get? table name := by
  induction table with
  | nil => rfl
  | cons entry rest ih =>
    obtain ⟨key, value⟩ := entry
    obtain ⟨alone, distinct⟩ := List.nodup_cons.mp distinct
    have first : ofList [(key, value)] = [(key, value)] := rfl
    have whole := get?_ofList_append [(key, value)] rest name
    rw [List.singleton_append, first, ih distinct] at whole
    rw [whole]
    by_cases same : name = key
    · subst same
      rw [get?_eq_none_iff.mpr alone, Option.none_or, get?_cons_self, get?_cons_self]
    · rw [get?_cons_of_ne value rest same, get?_cons_of_ne value [] same]
      exact Option.or_none

/-- Of two tables one over the other, the upper one decides where it has a value. -/
theorem get?_overlay {upper : Table α} (distinct : (names upper).Nodup) (lower : Table α)
    (name : String) : get? (overlay lower upper) name = (get? upper name).or (get? lower name) := by
  rw [get?_overlay_ofList, get?_ofList_of_nodup distinct]

/-- Tables without a name leave it as it is. -/
theorem get?_foldl_overlay {tables : List (Table α)} {name : String}
    (distinct : ∀ table ∈ tables, (names table).Nodup)
    (absent : ∀ table ∈ tables, get? table name = none) (base : Table α) :
    get? (tables.foldl overlay base) name = get? base name := by
  induction tables generalizing base with
  | nil => rfl
  | cons table rest ih =>
    rw [List.foldl_cons, ih (fun t mem => distinct t (List.mem_cons_of_mem _ mem))
      (fun t mem => absent t (List.mem_cons_of_mem _ mem)), get?_overlay (distinct _ List.mem_cons_self),
      absent _ List.mem_cons_self]
    rfl

theorem get?_map (f : α → β) (table : Table α) (name : String) :
    get? (table.map fun entry => (entry.1, f entry.2)) name = (get? table name).map f := by
  induction table with
  | nil => rfl
  | cons entry rest ih =>
    rw [List.map_cons, get?, get?, ih]
    split <;> rfl

/-! ### Tables without some names -/

/-- A table without the entries under some names. -/
def without (dropped : List String) (table : Table α) : Table α :=
  table.filter (·.1 ∉ dropped)

theorem get?_without {dropped : List String} {name : String} (kept : name ∉ dropped) (table : Table α) :
    get? (without dropped table) name = get? table name := by
  induction table with
  | nil => rfl
  | cons entry rest ih =>
    obtain ⟨key, value⟩ := entry
    rw [without] at ih ⊢
    by_cases gone : key ∈ dropped
    · have other : key ≠ name := fun same => kept (same ▸ gone)
      rw [List.filter_cons_of_neg (by simpa using gone), ih, get?, if_neg other]
    · rw [List.filter_cons_of_pos (by simpa using gone), get?, get?, ih]

theorem get?_without_of_mem {dropped : List String} {name : String} (gone : name ∈ dropped)
    (table : Table α) : get? (without dropped table) name = none := by
  rw [get?_eq_none_iff]
  intro mem
  obtain ⟨entry, kept, rfl⟩ := List.mem_map.mp mem
  exact of_decide_eq_true (List.mem_filter.mp kept).2 gone

/-- What is found in the rest of a table was there. -/
theorem get?_of_get?_without {dropped : List String} {table : Table α} {name : String} {value : α}
    (found : get? (without dropped table) name = some value) :
    name ∉ dropped ∧ get? table name = some value := by
  by_cases gone : name ∈ dropped
  · rw [get?_without_of_mem gone] at found
    cases found
  · exact ⟨gone, get?_without gone table ▸ found⟩

theorem without_eq_self {dropped : List String} {table : Table α}
    (none_there : ∀ name ∈ dropped, name ∉ names table) : without dropped table = table :=
  List.filter_eq_self.mpr fun entry mem =>
    decide_eq_true fun gone => none_there entry.1 gone (List.mem_map_of_mem mem)

/-! ### Tables with some entries set -/

theorem mem_insert {table : Table α} {name : String} {value : α} {entry : String × α}
    (mem : entry ∈ table.insert name value) : entry = (name, value) ∨ entry ∈ table := by
  induction table with
  | nil => exact .inl (List.mem_singleton.mp mem)
  | cons first rest ih =>
    unfold insert at mem
    split at mem
    · exact List.mem_cons.mp mem
    · split at mem
      · exact (List.mem_cons.mp mem).imp_right (List.mem_cons_of_mem _)
      · rcases List.mem_cons.mp mem with rfl | mem
        · exact .inr List.mem_cons_self
        · exact (ih mem).imp_right (List.mem_cons_of_mem _)

theorem ascending_insert {table : Table α} (ascending : table.Ascending) (name : String) (value : α) :
    (table.insert name value).Ascending := by
  induction table with
  | nil => exact List.pairwise_singleton _ _
  | cons first rest ih =>
    obtain ⟨least, others⟩ := List.pairwise_cons.mp ascending
    unfold insert
    split
    · rename_i below
      refine List.pairwise_cons.mpr ⟨fun entry mem => ?_, ascending⟩
      rcases List.mem_cons.mp mem with rfl | mem
      · exact below
      · exact String.lt_trans below (least entry mem)
    · rename_i notBelow
      split
      · rename_i same
        exact List.pairwise_cons.mpr ⟨same ▸ least, others⟩
      · rename_i other
        have above : first.1 < name := Std.lt_of_le_of_ne (String.not_lt.mp notBelow) (Ne.symm other)
        refine List.pairwise_cons.mpr ⟨fun entry mem => ?_, ih others⟩
        rcases mem_insert mem with rfl | mem
        · exact above
        · exact least entry mem

/-- The table has these entries, and is like another one but for them. -/
structure Sets (before : Table α) (entries : List (String × α)) (after : Table α) : Prop where
  get? : ∀ name, get? after name = (get? entries name).or (get? before name)
  ascending : before.Ascending → after.Ascending

theorem Sets.refl (table : Table α) : Sets table [] table := ⟨fun _ => rfl, id⟩

theorem Sets.insert {before after : Table α} {entries : List (String × α)}
    (sets : Sets before entries after) (name : String) (value : α) :
    Sets before ((name, value) :: entries) (after.insert name value) where
  get? other := by
    by_cases same : other = name
    · rw [same, get?_insert_self, get?_cons_self]
      rfl
    · rw [get?_insert_of_ne _ _ same, get?_cons_of_ne _ _ same, sets.get?]
  ascending h := ascending_insert (sets.ascending h) name value

/-! ### Tables with related values -/

/-- Two tables with the same names in one order, and related values. -/
inductive Rel (R : α → β → Prop) : Table α → Table β → Prop
  | nil : Rel R [] []
  | cons {name : String} {a : α} {b : β} {rest : Table α} {others : Table β} (same : R a b)
      (behind : Rel R rest others) : Rel R ((name, a) :: rest) ((name, b) :: others)

namespace Rel

variable {R : α → β → Prop} {table : Table α} {table' : Table β}

theorem refl_on {R : α → α → Prop} (same : ∀ name a, (name, a) ∈ table → R a a) : Rel R table table := by
  induction table with
  | nil => exact .nil
  | cons entry rest ih =>
    exact .cons (same _ _ List.mem_cons_self) (ih fun name a mem => same name a (List.mem_cons_of_mem _ mem))

theorem isEmpty_eq (rel : Rel R table table') : table'.isEmpty = table.isEmpty := by
  cases rel <;> rfl

theorem get? (rel : Rel R table table') (name : String) :
    Option.Rel R (Table.get? table name) (Table.get? table' name) := by
  induction rel with
  | nil => exact .none
  | @cons key a b rest others same behind ih =>
    rw [Table.get?, Table.get?]
    split
    · exact .some same
    · exact ih

/-- What holds of related values alike holds of all entries of both tables or of neither. -/
theorem forall_mem_iff {P : String → α → Prop} {Q : String → β → Prop} (rel : Rel R table table')
    (alike : ∀ name a b, (name, a) ∈ table → R a b → (P name a ↔ Q name b)) :
    (∀ entry ∈ table, P entry.1 entry.2) ↔ ∀ entry ∈ table', Q entry.1 entry.2 := by
  induction rel with
  | nil => exact iff_of_true nofun nofun
  | @cons key a b rest others same behind ih =>
    rw [List.forall_mem_cons, List.forall_mem_cons]
    exact and_congr (alike key a b List.mem_cons_self same)
      (ih fun name a b mem => alike name a b (List.mem_cons_of_mem _ mem))

end Rel

end MockApi.Table
