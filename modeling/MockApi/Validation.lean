import MockApi.Regex.Parser
import MockApi.Schema.Document
import MockApi.Validation.Format

/-!
# Validation

A value is checked against a node of a document by one walk, which stops at the first failure. A
reference that is met again at the same path, while it is being followed there, is not followed a
second time; that ends the walk for definitions that refer to themselves. Each call of `check` goes to a
part of the value, or follows a reference not yet followed at this path, or goes to a part of the node.
-/

namespace MockApi.Validation

open Schema

/-! ### Keywords of texts and numbers -/

def stringFault (k : Keywords) (s : String) : Option String :=
  if let some min := k.minLength.filter (s.length < ·) then some ("minLength " ++ toString min)
  else if let some max := k.maxLength.filter (· < s.length) then some ("maxLength " ++ toString max)
  else if let some pattern := k.pattern.filter (Regex.patternMatches · s == some false) then
    some ("pattern " ++ pattern)
  else if let some format := k.format.filter (!formatMatches · s) then some ("format " ++ format)
  else none

/-- Whether a flag makes the inclusive bound beside it exclusive. -/
def isFlagged (bound : Option ExclusiveBound) : Bool :=
  match bound with
  | some (.flag on) => on
  | _ => false

def exclusiveValue (bound : Option ExclusiveBound) : Option Binary64.Finite :=
  match bound with
  | some (.value x) => some x
  | _ => none

def minimumFault (k : Keywords) (n : Binary64) : Option String :=
  let strict := isFlagged k.exclusiveMinimum
  (k.minimum.filter fun min => n.lt min || (strict && n.eq min)).map fun min =>
    (if strict then "exclusiveMinimum " else "minimum ") ++ Binary64.plainText min

def maximumFault (k : Keywords) (n : Binary64) : Option String :=
  let strict := isFlagged k.exclusiveMaximum
  (k.maximum.filter fun max => Binary64.lt max n || (strict && n.eq max)).map fun max =>
    (if strict then "exclusiveMaximum " else "maximum ") ++ Binary64.plainText max

def exclusiveMinimumFault (k : Keywords) (n : Binary64) : Option String :=
  ((exclusiveValue k.exclusiveMinimum).filter fun min => n.le min).map fun min =>
    "exclusiveMinimum " ++ Binary64.plainText min

def exclusiveMaximumFault (k : Keywords) (n : Binary64) : Option String :=
  ((exclusiveValue k.exclusiveMaximum).filter fun max => Binary64.le max n).map fun max =>
    "exclusiveMaximum " ++ Binary64.plainText max

/-- Whether a number is a multiple of a positive step: the quotient lies within a billionth of a whole
number. -/
def isMultiple (n step : Binary64) : Bool :=
  let quotient := n.div step
  !Binary64.billionth.lt (quotient.sub quotient.round).abs

def multipleFault (k : Keywords) (n : Binary64) : Option String :=
  (k.multipleOf.filter fun step => Binary64.lt Binary64.zero step && !isMultiple n step).map
    fun step => "multipleOf " ++ Binary64.plainText step

def numberFault (k : Keywords) (n : Binary64) : Option String :=
  (minimumFault k n).or <| (maximumFault k n).or <| (exclusiveMinimumFault k n).or <|
    (exclusiveMaximumFault k n).or (multipleFault k n)

def lengthFault (k : Keywords) (length : Nat) : Option String :=
  if let some min := k.minItems.filter (length < ·) then some ("minItems " ++ toString min)
  else if let some max := k.maxItems.filter (· < length) then some ("maxItems " ++ toString max)
  else none

/-! ### The walk -/

/-- The references that are being followed: the key of each, and the path where it was met. -/
abbrev Guard := List (String × String)

def keys (doc : Document) : List String := rootKey :: Table.names doc.definitions

/-- How many references may still be followed at a path. -/
def unfollowed (doc : Document) (guard : Guard) (path : String) : Nat :=
  (keys doc).countP fun key => !guard.contains (key, path)

theorem get?_mem {α : Type} {table : List (String × α)} {name : String} {value : α}
    (h : Table.get? table name = some value) : (name, value) ∈ table := by
  induction table with
  | nil => simp [Table.get?] at h
  | cons entry rest ih =>
    obtain ⟨key, x⟩ := entry
    unfold Table.get? at h
    split at h
    · simp_all
    · simp [ih h]

theorem place_key_mem_keys {doc : Document} {pointer : String} {place : Place} {node : Node}
    (h : doc.lookup pointer = .internal place node) : place.key ∈ keys doc := by
  unfold Document.lookup at h
  split at h
  · cases h
  split at h
  · cases h; simp [Place.key, keys]
  split at h
  · cases h
  split at h
  · rename_i name node' hn
    cases h
    simp only [Place.key, keys, Table.names, List.mem_cons, List.mem_map]
    exact .inr ⟨_, get?_mem hn, rfl⟩
  · cases h

theorem unfollowed_cons_lt {doc : Document} {guard : Guard} {key path : String}
    (hk : key ∈ keys doc) (hg : (guard.contains (key, path)) = false) :
    unfollowed doc ((key, path) :: guard) path < unfollowed doc guard path := by
  unfold unfollowed
  generalize keys doc = ks at hk
  induction ks with
  | nil => simp at hk
  | cons k ks ih =>
    have mono : ks.countP (fun key' => !(List.contains ((key, path) :: guard) (key', path))) ≤
        ks.countP (fun key' => !(List.contains guard (key', path))) := by
      apply List.countP_mono_left
      intro x _ hx
      simp at hx ⊢
      exact hx.2
    rw [List.countP_cons, List.countP_cons]
    by_cases h : key = k
    · subst h
      simp only [hg]
      have : List.contains ((key, path) :: guard) (key, path) = true := by simp
      simp only [this, Bool.not_true, Bool.not_false, if_true, Bool.false_eq_true, if_false]
      omega
    · have hk' : key ∈ ks := by simpa [h] using hk
      have := ih hk'
      have e : List.contains ((key, path) :: guard) (k, path) = List.contains guard (k, path) := by
        simp [Ne.symm h]
      rw [e]
      omega

def fail (path expected : String) (actual : Json) : Except Failure Unit :=
  .error ⟨path, expected, actual⟩

def failIf (fault : Option String) (path : String) (actual : Json) : Except Failure Unit :=
  match fault with
  | some expected => fail path expected actual
  | none => .ok ()

def missingMember (required : List String) (members : List (String × Json)) : Option String :=
  required.find? fun name => !Table.has members name

def checkAll {α : Type} (entries : List α) (check : (x : α) → x ∈ entries → Except Failure Unit) :
    Except Failure Unit :=
  match entries with
  | [] => .ok ()
  | x :: rest =>
    match check x List.mem_cons_self with
    | .error failure => .error failure
    | .ok () => checkAll rest fun y h => check y (List.mem_cons_of_mem x h)

/-- The checks of a tuple: each position with the element there, with the index of the first. -/
def zipIndexed {α β : Type} (index : Nat) : List α → List β → List (Nat × α × β)
  | a :: as, b :: bs => (index, a, b) :: zipIndexed (index + 1) as bs
  | _, _ => []

theorem mem_of_zipIndexed {α β : Type} {index : Nat} {as : List α} {bs : List β}
    {x : Nat × α × β} (h : x ∈ zipIndexed index as bs) : x.2.1 ∈ as ∧ x.2.2 ∈ bs := by
  induction as generalizing index bs with
  | nil => simp [zipIndexed] at h
  | cons a as ih =>
    cases bs with
    | nil => simp [zipIndexed] at h
    | cons b bs =>
      simp only [zipIndexed, List.mem_cons] at h
      rcases h with rfl | h
      · simp
      · have := ih h
        simp [this]

theorem sizeOf_lt_of_mem {α : Type} [SizeOf α] {table : List (String × α)} {name : String}
    {value : α} (h : (name, value) ∈ table) : sizeOf value < sizeOf table := by
  have := List.sizeOf_lt_of_mem h
  simp at this
  omega

theorem sizeOf_branch_lt {node branch : Node}
    (h : branch ∈ node.oneOf ∨ branch ∈ node.anyOf ∨ branch ∈ node.allOf) :
    sizeOf branch < sizeOf node := by
  obtain ⟨k, properties, items, oneOf, anyOf, allOf, definitions, defs⟩ := node
  simp only at h
  rcases h with h | h | h
  all_goals
    have := List.sizeOf_lt_of_mem h
    simp
    omega

mutual

/-- A value against a node, at a path, while the references in `guard` are being followed. -/
def check (doc : Document) (guard : Guard) (node : Node) (value : Json) (path : String) :
    Except Failure Unit :=
  if value.isNull && node.isNullable then .ok ()
  else match hd : node.driver with
    | .reference pointer =>
      match hp : doc.lookup pointer with
      | .internal place target =>
        if hg : guard.contains (place.key, path) then .ok ()
        else
          have := unfollowed_cons_lt (place_key_mem_keys hp) (Bool.eq_false_iff.2 hg)
          check doc ((place.key, path) :: guard) target value path
      | .external => .ok ()
      | .missing => fail path ("resolvable reference " ++ pointer) value
    | .allOf branches =>
      checkAll branches fun branch hb =>
        have := sizeOf_branch_lt (.inr (.inr (Node.allOf_of_driver hd ▸ hb)))
        check doc guard branch value path
    | .anyOf branches =>
      if branches.attach.any fun ⟨branch, hb⟩ =>
          have := sizeOf_branch_lt (.inr (.inl (Node.anyOf_of_driver hd ▸ hb)))
          (check doc guard branch value path).isOk
      then .ok ()
      else fail path "a value matching at least one anyOf branch" value
    | .oneOf branches =>
      if (branches.attach.countP fun ⟨branch, hb⟩ =>
          have := sizeOf_branch_lt (.inl (Node.oneOf_of_driver hd ▸ hb))
          (check doc guard branch value path).isOk) = 1
      then .ok ()
      else fail path "a value matching exactly one oneOf branch" value
    | .constant expected =>
      if value.same expected then .ok () else fail path ("const " ++ expected.compact) value
    | .enumeration first rest =>
      if (first :: rest).any value.same then .ok ()
      else fail path ("one of " ++ (Json.array (first :: rest)).compact) value
    | .typed kind => checkKind doc guard node kind value path
    | .union kinds =>
      match kinds.find? (·.admits value) with
      | some kind => checkKind doc guard node kind value path
      | none => fail path (Text.joinWith " | " (kinds.map Kind.name)) value
    | .untyped => .ok ()
termination_by (sizeOf value, unfollowed doc guard path, sizeOf node, 1)

def checkKind (doc : Document) (guard : Guard) (node : Node) (kind : Kind) (value : Json)
    (path : String) : Except Failure Unit :=
  if !kind.admits value then fail path kind.name value
  else match kind, value with
    | .object, .object members =>
      match missingMember node.required members with
      | some name => fail (childPath path name) "required property" .null
      | none =>
        checkAll node.properties fun (name, property) _ =>
          match hm : Table.get? members name with
          | none => .ok ()
          | some member =>
            have := sizeOf_lt_of_mem (get?_mem hm)
            check doc guard property member (childPath path name)
    | .array, .array elements =>
      match lengthFault node.toKeywords elements.length with
      | some expected => fail path expected value
      | none =>
        match node.items with
        | some (.single item) =>
          checkAll elements.zipIdx fun (element, i) he =>
            have : sizeOf element < sizeOf elements :=
              List.sizeOf_lt_of_mem (List.fst_mem_of_mem_zipIdx he)
            check doc guard item element (indexPath path i)
        | some (.tuple positions) =>
          checkAll (zipIndexed 0 positions elements) fun (i, item, element) he =>
            have : sizeOf element < sizeOf elements :=
              List.sizeOf_lt_of_mem (mem_of_zipIndexed he).2
            check doc guard item element (indexPath path i)
        | none => .ok ()
    | .string, .string s => failIf (stringFault node.toKeywords s) path value
    | .number, .number n | .integer, .number n =>
      failIf (numberFault node.toKeywords n.toBinary64) path value
    | _, _ => .ok ()
termination_by (sizeOf value, unfollowed doc guard path, sizeOf node, 0)

end

def checkNode (doc : Document) (node : Node) (value : Json) : Except Failure Unit :=
  check doc [] node value rootPath

/-- A request body against the root; an absent one is checked as null. -/
def checkBody (doc : Document) (body : Option Json) : Except Failure Unit :=
  checkNode doc doc.root (body.getD .null)

end MockApi.Validation
