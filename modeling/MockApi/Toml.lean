import MockApi.Binary64.Reader
import MockApi.Tree

/-!
# TOML values

A value says itself of which kind it is. The keys of a table are all different.
-/

namespace MockApi

inductive Toml
  | text (s : String)
  | whole (n : Int)
  | real (x : Binary64)
  | bool (b : Bool)
  | array (elements : List Toml)
  | table (entries : List (String × Toml))

namespace Toml

def text? : Toml → Option String
  | text s => some s
  | _ => none

def bool? : Toml → Option Bool
  | bool b => some b
  | _ => none

def nat? : Toml → Option Nat
  | whole n => if 0 ≤ n then some n.toNat else none
  | _ => none

def real? : Toml → Option Binary64
  | whole n => some (Binary64.ofInt n)
  | real x => some x
  | _ => none

def elements? : Toml → Option (List Toml)
  | array elements => some elements
  | _ => none

def entries? : Toml → Option (List (String × Toml))
  | table entries => some entries
  | _ => none

mutual

def toJson : Toml → Json
  | text s => .string s
  | whole n => .ofInt n
  | real x => .ofBinary64 x
  | bool b => .bool b
  | array elements => .array (elementsJson elements)
  | table entries => .ofMembers (entriesJson entries)

def elementsJson : List Toml → List Json
  | [] => []
  | x :: rest => toJson x :: elementsJson rest

def entriesJson : List (String × Toml) → List (String × Json)
  | [] => []
  | (key, x) :: rest => (key, toJson x) :: entriesJson rest

end

instance : Tree Toml where
  isNull _ := false
  text? := text?
  name? := text?
  bool? := bool?
  nat? := nat?
  real? := real?
  elements? := elements?
  members? := entries?
  positions? := elements?
  json? value := some value.toJson

end Toml

end MockApi
