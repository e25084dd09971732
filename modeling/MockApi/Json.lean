import MockApi.Binary64.Decimal

/-!
# JSON values

A number keeps whether it was written as a whole number of 64 bits or as a double, so `1` and `1.0`
differ. The members of an object are listed by ascending name, each name once.
-/

namespace MockApi

namespace Json

/-- A JSON number: a whole number of at most 64 bits, or a double. -/
inductive Number
  | whole (n : Int)
  | double (x : Binary64.Finite)
deriving DecidableEq

def Number.toBinary64 : Number → Binary64
  | .whole n => Binary64.ofInt n
  | .double x => .finite x

/-- Whole numbers are the same when equal; doubles are compared as numbers. A whole number is never
the same as a double. -/
def Number.same : Number → Number → Bool
  | .whole m, .whole n => m == n
  | .double x, .double y => x.signed == y.signed
  | _, _ => false

end Json

inductive Json
  | null
  | bool (b : Bool)
  | number (n : Json.Number)
  | string (s : String)
  | array (elements : List Json)
  | object (members : List (String × Json))

/-- Entries listed by ascending name. -/
abbrev Table (α : Type) := List (String × α)

namespace Table

variable {α β : Type}

def get? (table : Table α) (name : String) : Option α :=
  match table with
  | [] => none
  | (key, value) :: rest => if key = name then some value else get? rest name

def has (table : Table α) (name : String) : Bool := (get? table name).isSome

def insert (table : Table α) (name : String) (value : α) : Table α :=
  match table with
  | [] => [(name, value)]
  | (key, old) :: rest =>
    if name < key then (name, value) :: (key, old) :: rest
    else if name = key then (name, value) :: rest
    else (key, old) :: insert rest name value

def overlay (lower upper : Table α) : Table α :=
  upper.foldl (fun table entry => insert table entry.1 entry.2) lower

/-- A table of entries in any order; of two under one name the later stays. -/
def ofList (entries : List (String × α)) : Table α := overlay [] entries

def names (table : Table α) : List String := table.map (·.1)

def erase (table : Table α) (name : String) : Table α := table.filter (·.1 ≠ name)

def Ascending (table : Table α) : Prop := table.Pairwise (fun a b => a.1 < b.1)

theorem get?_insert_self (table : Table α) (name : String) (value : α) :
    (table.insert name value).get? name = some value := by
  induction table with
  | nil => simp [insert, get?]
  | cons entry rest ih =>
    obtain ⟨key, old⟩ := entry
    unfold insert
    split
    · simp [get?]
    · split
      · simp [get?]
      · rename_i h
        simp [get?, ih, Ne.symm h]

theorem get?_insert_of_ne (table : Table α) {name other : String} (value : α) (h : other ≠ name) :
    (table.insert name value).get? other = table.get? other := by
  induction table with
  | nil => simp [insert, get?, h.symm]
  | cons entry rest ih =>
    obtain ⟨key, old⟩ := entry
    unfold insert
    split
    · simp [get?, h.symm]
    · split
      · rename_i hk
        subst hk
        simp [get?, h.symm]
      · simp [get?, ih]

end Table

namespace Json

instance : Inhabited Json := ⟨.null⟩

def ofString (s : String) : Json := .string s

def ofNat (n : Nat) : Json := .number (.whole n)

def ofInt (n : Int) : Json := .number (.whole n)

/-- A double as a value; what is not finite has no JSON number and becomes null. -/
def ofBinary64 : Binary64 → Json
  | .finite x => .number (.double x)
  | _ => .null

def ofMembers (members : List (String × Json)) : Json := .object (Table.ofList members)

def isNull : Json → Bool
  | .null => true
  | _ => false

def isObject : Json → Bool
  | .object _ => true
  | _ => false

def member? : Json → String → Option Json
  | .object members, name => Table.get? members name
  | _, _ => none

/-! ### Equality -/

mutual

/-- Equality of values: numbers as `Number.same` says, all else by structure. -/
def same : Json → Json → Bool
  | .null, .null => true
  | .bool a, .bool b => a == b
  | .number a, .number b => a.same b
  | .string a, .string b => a == b
  | .array as, .array bs => sameElements as bs
  | .object as, .object bs => sameMembers as bs
  | _, _ => false

def sameElements : List Json → List Json → Bool
  | [], [] => true
  | a :: as, b :: bs => same a b && sameElements as bs
  | _, _ => false

def sameMembers : List (String × Json) → List (String × Json) → Bool
  | [], [] => true
  | (k, a) :: as, (l, b) :: bs => k == l && same a b && sameMembers as bs
  | _, _ => false

end

/-! ### Size and nesting -/

mutual

def nesting : Json → Nat
  | .array elements => 1 + nestingElements elements
  | .object members => 1 + nestingMembers members
  | _ => 0

def nestingElements : List Json → Nat
  | [] => 0
  | x :: rest => Max.max (nesting x) (nestingElements rest)

def nestingMembers : List (String × Json) → Nat
  | [] => 0
  | (_, x) :: rest => Max.max (nesting x) (nestingMembers rest)

end

end Json

end MockApi
