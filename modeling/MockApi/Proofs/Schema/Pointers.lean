import MockApi.Proofs.Json.Shape
import MockApi.Proofs.Schema.RoundTrip
import MockApi.Proofs.Validation.Guard

/-!
# Pointers to definitions

A document is read from a value that has up to three tables of definitions, and holds them in one. Each
definition is found there by a pointer that writes its name, whatever characters the name has, and nothing
else is (`lookup_hoisted`): the escapes of the name are undone in the right order
(`unescapePointer_escapePointer`), and of definitions of one name the one of the later table is there.
-/

namespace MockApi.Schema

/-! ### Escapes -/

def escapeChar (c : Char) : List Char :=
  if c = '~' then ['~', '0'] else if c = '/' then ['~', '1'] else [c]

/-- The segment of a pointer that writes a name. -/
def escapePointer (name : String) : String := String.ofList (name.toList.flatMap escapeChar)

/-- What is left of the escapes when those of slashes are undone. -/
def escapeTilde (c : Char) : List Char := if c = '~' then ['~', '0'] else [c]

theorem replacePair_cons_of_ne {a b replacement c : Char} (other : c ≠ a) (rest : List Char) :
    replacePair a b replacement (c :: rest) = c :: replacePair a b replacement rest := by
  cases rest with
  | nil => simp [replacePair]
  | cons d rest => rw [replacePair, if_neg fun same => other same.1]

theorem replacePair_slash (s : List Char) :
    replacePair '~' '1' '/' (s.flatMap escapeChar) = s.flatMap escapeTilde := by
  induction s with
  | nil => rfl
  | cons c s ih =>
    rw [List.flatMap_cons, List.flatMap_cons]
    by_cases tilde : c = '~'
    · subst tilde
      have behind : replacePair '~' '1' '/' ('0' :: s.flatMap escapeChar) =
          '0' :: replacePair '~' '1' '/' (s.flatMap escapeChar) :=
        replacePair_cons_of_ne (by decide) _
      have escaped : escapeChar '~' = ['~', '0'] := rfl
      have kept : escapeTilde '~' = ['~', '0'] := rfl
      rw [escaped, kept, List.cons_append, List.singleton_append, replacePair, if_neg (by decide), behind,
        ih]
      rfl
    · rw [escapeTilde, if_neg tilde]
      by_cases slash : c = '/'
      · subst slash
        have escaped : escapeChar '/' = ['~', '1'] := rfl
        rw [escaped, List.cons_append, List.singleton_append, replacePair, if_pos ⟨rfl, rfl⟩, ih]
        rfl
      · rw [escapeChar, if_neg tilde, if_neg slash, List.singleton_append, List.singleton_append,
          replacePair_cons_of_ne tilde, ih]

theorem replacePair_tilde (s : List Char) : replacePair '~' '0' '~' (s.flatMap escapeTilde) = s := by
  induction s with
  | nil => rfl
  | cons c s ih =>
    rw [List.flatMap_cons, escapeTilde]
    by_cases tilde : c = '~'
    · rw [if_pos tilde, List.cons_append, List.singleton_append, replacePair, if_pos ⟨rfl, rfl⟩, ih,
        tilde]
    · rw [if_neg tilde, List.singleton_append, replacePair_cons_of_ne tilde, ih]

/-- A name is read back from the segment that writes it. -/
theorem unescapePointer_escapePointer (name : String) :
    unescapePointer (escapePointer name).toList = name := by
  rw [escapePointer, String.toList_ofList, unescapePointer, replacePair_slash, replacePair_tilde,
    String.ofList_toList]

/-! ### The name in a pointer -/

theorem startsWith_hash (pointer : String) :
    Text.startsWith pointer "#" = true ↔ pointer.toList.head? = some '#' := by
  have hash : "#".toList = ['#'] := rfl
  rw [Text.startsWith, hash]
  cases pointer.toList with
  | nil => simp [Text.dropStart]
  | cons c rest =>
    by_cases same : c = '#'
    · cases rest <;> simp [Text.dropStart, same]
    · simp [Text.dropStart, same, Ne.symm same]

theorem shape_of_mem_definitionPrefixes :
    ∀ start ∈ definitionPrefixes, start.toList.head? = some '#' ∧ 2 < start.length := by
  decide

theorem definitionName?_append {start : String} (listed : start ∈ definitionPrefixes)
    (segment : String) :
    definitionName? (start ++ segment) = some (unescapePointer segment.toList) := by
  simp only [definitionPrefixes, List.mem_cons, List.not_mem_nil, or_false] at listed
  rw [definitionName?, String.toList_append]
  rcases listed with rfl | rfl | rfl <;>
    simp [definitionPrefixes, List.findSome?, Text.dropStart]

/-! ### Tables of definitions -/

/-- The table holds a node under exactly the names that are given a value, and the node is read from it. -/
def Holds (table : List (String × Node)) (given : String → Option Json) : Prop :=
  ∀ name, Option.Rel (fun node value => Node.ofJson? value = some node) (Table.get? table name)
    (given name)

namespace Holds

variable {table : List (String × Node)} {given : String → Option Json} {name : String}

theorem given_of_get? {node : Node} (holds : Holds table given)
    (found : Table.get? table name = some node) :
    ∃ value, given name = some value ∧ Node.ofJson? value = some node := by
  have here := holds name
  rw [found] at here
  revert here
  cases given name with
  | none => nofun
  | some value => exact fun | .some made => ⟨value, rfl, made⟩

theorem get?_of_given {value : Json} (holds : Holds table given) (stated : given name = some value) :
    ∃ node, Table.get? table name = some node ∧ Node.ofJson? value = some node := by
  have here := holds name
  rw [stated] at here
  revert here
  cases Table.get? table name with
  | none => nofun
  | some node => exact fun | .some made => ⟨node, rfl, made⟩

theorem get?_eq_none (holds : Holds table given) (absent : given name = none) :
    Table.get? table name = none := by
  cases found : Table.get? table name with
  | none => rfl
  | some node =>
    obtain ⟨value, stated, -⟩ := holds.given_of_get? found
    rw [absent] at stated
    cases stated

end Holds

theorem holds_of_namedNodes? {members : List (String × Json)} {table : List (String × Node)}
    (read : View.namedNodes? (View.ofMembers members) = some table) :
    Table.names table = Table.names members ∧ Holds table (Table.get? members) := by
  induction members generalizing table with
  | nil =>
    cases Option.some.inj read
    exact ⟨rfl, fun _ => .none⟩
  | cons member rest ih =>
    obtain ⟨name, value⟩ := member
    rw [View.ofMembers, View.namedNodes?, List.mapM_cons] at read
    obtain ⟨first, here, read⟩ := Option.bind_eq_some_iff.mp read
    obtain ⟨others, behind, read⟩ := Option.bind_eq_some_iff.mp read
    obtain ⟨node, made, rfl⟩ := Option.map_eq_some_iff.mp here
    cases Option.some.inj read
    obtain ⟨names, holds⟩ := ih behind
    refine ⟨congrArg (name :: ·) names, fun other => ?_⟩
    rw [Table.get?, Table.get?]
    split
    · exact .some made
    · exact holds other

theorem holds_of_tableOfJson? {value : Json} {table : List (String × Node)}
    (read : Node.tableOfJson? value = some table) (distinct : value.NamesDistinct) :
    (Table.names table).Nodup ∧ Holds table value.member? := by
  cases value with
  | object members =>
    have named : View.namedNodes? (View.ofMembers members) = some table := read
    obtain ⟨names, holds⟩ := holds_of_namedNodes? named
    rw [Json.NamesDistinct] at distinct
    exact ⟨names ▸ distinct.1, holds⟩
  | _ => cases read

/-- A table that may be absent. -/
theorem holds_of_partsField {field : Option Json} {table : List (String × Node)}
    (read : Node.partsField View.table (field.map View.ofJson) = some table)
    (distinct : ∀ value ∈ field, value.NamesDistinct) :
    (Table.names table).Nodup ∧ Holds table fun name => field.bind (·.member? name) := by
  cases field with
  | none =>
    cases Option.some.inj read
    exact ⟨List.nodup_nil, fun _ => .none⟩
  | some value => exact holds_of_tableOfJson? read (distinct value rfl)

theorem rel_or {α β : Type} {R : α → β → Prop} {a b : Option α} {c d : Option β}
    (first : Option.Rel R a c) (second : Option.Rel R b d) : Option.Rel R (a.or b) (c.or d) := by
  cases first with
  | some related => exact .some related
  | none => simpa using second

/-- Of two tables one over the other, the upper one decides what is given under a name. -/
theorem Holds.overlay {lower upper : List (String × Node)} {below above : String → Option Json}
    (distinct : (Table.names upper).Nodup) (holds : Holds lower below) (upper_holds : Holds upper above) :
    Holds (Table.overlay lower upper) fun name => (above name).or (below name) := by
  intro name
  rw [Table.get?_overlay distinct]
  exact rel_or (upper_holds name) (holds name)

namespace Document

/-- What a schema defines under a name: among the components, or in `$defs`, or in `definitions`. -/
def definition? (value : Json) (name : String) : Option Json :=
  ((componentSchemas? value).bind (·.member? name)).or
    (((value.member? "$defs").bind (·.member? name)).or
      ((value.member? "definitions").bind (·.member? name)))

/-- The table of the components, empty if there is none. -/
def components? (value : Json) : Option (List (String × Node)) :=
  Node.partsField View.table ((componentSchemas? value).map View.ofJson)

theorem ofJson_eq_ok {value : Json} {doc : Document} (read : ofJson value = .ok doc) :
    ∃ node components, Node.ofJson? value = some node ∧ value.isObject = true ∧
      components? value = some components ∧
      doc = { root := { node with definitions := [], defs := [] }
              definitions := Table.overlay (Table.overlay node.definitions node.defs) components
              title := node.title } := by
  cases object : value.isObject with
  | false =>
    rw [ofJson, object] at read
    cases read
  | true =>
    rw [ofJson, object] at read
    unfold components?
    cases schemas : componentSchemas? value with
    | none =>
      rw [schemas] at read
      cases made : Node.ofJson? value with
      | none => rw [made] at read; cases read
      | some node =>
        rw [made] at read
        cases read
        exact ⟨node, [], rfl, rfl, rfl, rfl⟩
    | some schemas' =>
      rw [schemas] at read
      have stated : Node.partsField View.table ((some schemas').map View.ofJson) =
          Node.tableOfJson? schemas' := rfl
      rw [stated]
      cases listed : Node.tableOfJson? schemas' with
      | none => simp only [listed] at read; cases read
      | some components =>
        simp only [listed] at read
        cases made : Node.ofJson? value with
        | none => rw [made] at read; cases read
        | some node =>
          rw [made] at read
          cases read
          exact ⟨node, components, rfl, rfl, rfl, rfl⟩

/-- The definitions of a document are what its schema defines. -/
theorem holds_definitions {value : Json} {doc : Document} (distinct : value.NamesDistinct)
    (read : ofJson value = .ok doc) : Holds doc.definitions (definition? value) := by
  obtain ⟨node, components, made, object, schemas, rfl⟩ := ofJson_eq_ok read
  cases value with
  | object members =>
    have fields := (Node.readFrom_of_ofFields? (show Node.ofFields? (View.ofMembers members) = some node
      from made))
    have field (name : String) : Table.get? (View.ofMembers members) name =
        ((Json.object members).member? name).map View.ofJson := by
      rw [View.ofMembers_eq, Table.get?_map]
      rfl
    have definitions := fields.definitions
    have defs := fields.defs
    rw [field] at definitions defs
    have inner {name : String} : ∀ inner ∈ (Json.object members).member? name, inner.NamesDistinct :=
      fun inner found => distinct.member found
    have deeper : ∀ inner ∈ componentSchemas? (.object members), inner.NamesDistinct := by
      intro inner found
      obtain ⟨components, outer, found⟩ := Option.bind_eq_some_iff.mp found
      exact (distinct.member outer).member found
    obtain ⟨-, lowest⟩ := holds_of_partsField definitions inner
    obtain ⟨middle_distinct, middle⟩ := holds_of_partsField defs inner
    obtain ⟨upper_distinct, upper⟩ := holds_of_partsField schemas deeper
    exact (lowest.overlay middle_distinct middle).overlay upper_distinct upper
  | _ => cases object

theorem lookup_append {start : String} (listed : start ∈ definitionPrefixes) (doc : Document)
    (segment : String) :
    doc.lookup (start ++ segment) =
      match Table.get? doc.definitions (unescapePointer segment.toList) with
      | some node => .internal (.definition (unescapePointer segment.toList)) node
      | none => .missing := by
  obtain ⟨hash, long⟩ := shape_of_mem_definitionPrefixes start listed
  have begins : Text.startsWith (start ++ segment) "#" = true := by
    rw [startsWith_hash, String.toList_append, List.head?_append, hash, Option.some_or]
  have inside : ¬(start ++ segment = rootKey ∨ start ++ segment = "#/") := by
    have longer : 2 < (start ++ segment).length := by
      rw [String.length_append]
      omega
    rintro (same | same) <;> rw [same] at longer <;> exact absurd longer (by decide)
  cases found : Table.get? doc.definitions (unescapePointer segment.toList) <;>
    simp only [lookup, begins, Bool.not_true, Bool.false_eq_true, if_false, if_neg inside,
      definitionName?_append listed, found]

/-- Only two pointers mean the root. -/
theorem lookup_root {doc : Document} {pointer : String} {node : Node}
    (found : doc.lookup pointer = .internal .root node) : pointer = "#" ∨ pointer = "#/" := by
  unfold lookup at found
  split at found
  · cases found
  split at found
  · assumption
  split at found
  · cases found
  split at found <;> cases found

theorem lookup_eq_external {doc : Document} {pointer : String} :
    doc.lookup pointer = .external ↔ pointer.toList.head? ≠ some '#' := by
  rw [Ne, ← startsWith_hash, Bool.not_eq_true]
  unfold lookup
  cases Text.startsWith pointer "#" with
  | false => simp
  | true =>
    simp only [Bool.not_true, Bool.false_eq_true, if_false, Bool.true_eq_false, iff_false]
    split
    · nofun
    split
    · nofun
    · split <;> nofun

/-- Every definition is found under its name, by a pointer with any of the three starts, and nothing but the
root and the definitions is. What one name has in several tables is what the last of `definitions`, `$defs`
and the components has. -/
theorem lookup_hoisted {value : Json} {doc : Document} (distinct : value.NamesDistinct)
    (read : ofJson value = .ok doc) :
    (∀ name, ∀ start ∈ ["#/definitions/", "#/$defs/", "#/components/schemas/"],
      (∀ schema, definition? value name = some schema →
        ∃ node, Node.ofJson? schema = some node ∧
          doc.lookup (start ++ escapePointer name) = .internal (.definition name) node) ∧
      (definition? value name = none → doc.lookup (start ++ escapePointer name) = .missing)) ∧
    doc.lookup "#" = .internal .root doc.root ∧ doc.lookup "#/" = .internal .root doc.root ∧
    (∀ pointer, doc.lookup pointer = .external ↔ pointer.toList.head? ≠ some '#') ∧
    (∀ pointer place node, doc.lookup pointer = .internal place node →
      (pointer = "#" ∨ pointer = "#/") ∧ place = .root ∨
        ∃ name schema, place = .definition name ∧ definition? value name = some schema ∧
          Node.ofJson? schema = some node) ∧
    doc.root.definitions = [] ∧ doc.root.defs = [] := by
  have holds := holds_definitions distinct read
  refine ⟨fun name start listed => ?_, rfl, rfl, fun pointer => lookup_eq_external,
    fun pointer place node found => ?_, ?_⟩
  · rw [lookup_append listed, unescapePointer_escapePointer]
    constructor
    · intro schema given
      obtain ⟨node, found, made⟩ := holds.get?_of_given given
      rw [found]
      exact ⟨node, made, rfl⟩
    · intro absent
      rw [holds.get?_eq_none absent]
  · have at_place := Validation.nodeAt?_of_lookup found
    cases place with
    | root => exact .inl ⟨lookup_root found, rfl⟩
    | definition name =>
      obtain ⟨schema, given, made⟩ := holds.given_of_get? at_place
      exact .inr ⟨name, schema, rfl, given, made⟩
  · obtain ⟨node, components, -, -, -, rfl⟩ := ofJson_eq_ok read
    exact ⟨rfl, rfl⟩

def titled (title : String) : Json := .object [("title", .string title)]

/-- One name in three tables, and the empty name. -/
def collidingTables : Json := .object [
  ("$defs", .object [("a/b", titled "slash"), ("~1", titled "middle")]),
  ("components", .object [("schemas", .object [("~1", titled "upper")])]),
  ("definitions", .object [("", titled "nameless"), ("~1", titled "lower")])]

theorem lookup_hoisted_collidingTables :
    collidingTables.NamesDistinct ∧ ∃ doc, ofJson collidingTables = .ok doc ∧
      (∃ node, Node.ofJson? (titled "upper") = some node ∧
        doc.lookup "#/definitions/~01" = .internal (.definition "~1") node) ∧
      (∃ node, Node.ofJson? (titled "slash") = some node ∧
        doc.lookup "#/components/schemas/a~1b" = .internal (.definition "a/b") node) ∧
      (∃ node, Node.ofJson? (titled "nameless") = some node ∧
        doc.lookup "#/$defs/" = .internal (.definition "") node) ∧
      doc.lookup "#/definitions/~1" = .missing := by
  have distinct : collidingTables.NamesDistinct := by
    simp [collidingTables, titled, Json.NamesDistinct, Json.NamesDistinctMembers, Table.names]
  have accepted : (ofJson collidingTables).isOk = true := by decide +kernel
  cases read : ofJson collidingTables with
  | error e =>
    rw [read] at accepted
    cases accepted
  | ok doc =>
    have found := (lookup_hoisted distinct read).1
    refine ⟨distinct, doc, rfl, ?_, ?_, ?_, ?_⟩
    · exact (found "~1" "#/definitions/" (by simp)).1 _ rfl
    · exact (found "a/b" "#/components/schemas/" (by simp)).1 _ rfl
    · exact (found "" "#/$defs/" (by simp)).1 _ rfl
    · exact (found "/" "#/definitions/" (by simp)).2 rfl

end Document

end MockApi.Schema
