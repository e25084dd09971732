import MockApi.Binary64.Reader
import MockApi.Tree

/-!
# YAML values

A plain word has no kind of its own: what it stands for depends on what is asked for. A quoted word is
always a text. The keys of a mapping are texts, and one key may come several times.
-/

namespace MockApi

inductive Yaml
  | plain (word : String)
  | quoted (text : String)
  | sequence (elements : List Yaml)
  | mapping (entries : List (String × Yaml))

namespace Yaml

open Text

def blank : Yaml := .plain ""

/-! ### Plain words -/

def isNullWord (word : String) : Bool := ["", "null", "Null", "NULL", "~"].contains word

def wordBool? (word : String) : Option Bool :=
  if ["true", "True", "TRUE"].contains word then some true
  else if ["false", "False", "FALSE"].contains word then some false
  else none

def dropPlus : List Char → List Char
  | '+' :: rest => rest
  | rest => rest

/-- Whether zeros in front keep a run of digits from being a number. -/
def hasLeadingZero (s : List Char) : Bool :=
  let digits := (Binary64.readSign s).2
  digits.head? == some '0' && decide (1 < digits.length) && digits.all Char.isDigit

def digitValue? (c : Char) : Option Nat :=
  if c.isDigit then some (c.toNat - 48)
  else if 'a' ≤ c ∧ c ≤ 'z' then some (c.toNat - 87)
  else if 'A' ≤ c ∧ c ≤ 'Z' then some (c.toNat - 55)
  else none

def inBase? (base : Nat) (digits : List Char) : Option Nat :=
  if digits.isEmpty then none
  else digits.foldlM (fun n c => ((digitValue? c).filter (· < base)).map (n * base + ·)) 0

def magnitude? (s : List Char) : Option Nat :=
  match s with
  | '0' :: 'x' :: digits => inBase? 16 digits
  | '0' :: 'o' :: digits => inBase? 8 digits
  | '0' :: 'b' :: digits => inBase? 2 digits
  | digits => if hasLeadingZero digits then none else inBase? 10 digits

def wordNat? (word : String) : Option Nat := magnitude? (dropPlus word.toList)

def wordInt? (word : String) : Option Int :=
  match word.toList with
  | '-' :: rest => (magnitude? rest).map fun n => -(n : Int)
  | _ => (wordNat? word).map Int.ofNat

def infinities : List (String × Binary64) :=
  [(".inf", .infinite false), (".Inf", .infinite false), (".INF", .infinite false),
    ("+.inf", .infinite false), ("+.Inf", .infinite false), ("+.INF", .infinite false),
    ("-.inf", .infinite true), ("-.Inf", .infinite true), ("-.INF", .infinite true),
    (".nan", .nan), (".NaN", .nan), (".NAN", .nan)]

def wordReal? (word : String) : Option Binary64 :=
  match Table.get? infinities word with
  | some x => some x
  | none => match Binary64.ofChars? word.toList with
    | some (.finite x) => some (.finite x)
    | _ => none

/-- A whole number as JSON. One of more than 64 bits is refused, unless it is so long that it is taken
for a double. -/
def intJson? (n : Int) (orDouble : Option Json) : Option Json :=
  if -(2 ^ 63 : Nat) ≤ n ∧ n < (2 ^ 64 : Nat) then some (.ofInt n)
  else if -(2 ^ 127 : Nat) ≤ n ∧ n < (2 ^ 128 : Nat) then none
  else orDouble

def wordJson? (word : String) : Option Json :=
  let asText : Option Json := some <|
    if hasLeadingZero word.toList then .string word
    else match wordReal? word with
      | some x => .ofBinary64 x
      | none => .string word
  if isNullWord word then some .null
  else match wordBool? word with
    | some b => some (.bool b)
    | none => match wordInt? word with
      | some n => intJson? n asText
      | none => asText

/-! ### Values -/

def isNull : Yaml → Bool
  | plain word => isNullWord word
  | _ => false

def text? : Yaml → Option String
  | plain word => some word
  | quoted text => some text
  | _ => none

def word? {α : Type} (read : String → Option α) : Yaml → Option α
  | plain word => read word
  | _ => none

def elements? : Yaml → Option (List Yaml)
  | sequence elements => some elements
  | plain "" => some []
  | _ => none

def entries? : Yaml → Option (List (String × Yaml))
  | mapping entries => some entries
  | plain "" => some []
  | _ => none

mutual

/-- The value as JSON; of two entries under one key the later stays. -/
def json? : Yaml → Option Json
  | plain word => wordJson? word
  | quoted text => some (.string text)
  | sequence elements => (elementsJson? elements).map .array
  | mapping entries => (entriesJson? entries).map .ofMembers

def elementsJson? : List Yaml → Option (List Json)
  | [] => some []
  | x :: rest => do return (← json? x) :: (← elementsJson? rest)

def entriesJson? : List (String × Yaml) → Option (List (String × Json))
  | [] => some []
  | (key, x) :: rest => do return (key, ← json? x) :: (← entriesJson? rest)

end

instance : Tree Yaml where
  isNull := isNull
  text? := text?
  name? := text?
  bool? := word? wordBool?
  nat? := word? wordNat?
  real? := word? wordReal?
  elements? := elements?
  members? := entries?
  positions? _ := none
  json? := json?

mutual

def nesting : Yaml → Nat
  | plain _ | quoted _ => 0
  | sequence elements => 1 + nestingElements elements
  | mapping entries => 1 + nestingEntries entries

def nestingElements : List Yaml → Nat
  | [] => 0
  | x :: rest => Nat.max (nesting x) (nestingElements rest)

def nestingEntries : List (String × Yaml) → Nat
  | [] => 0
  | (_, x) :: rest => Nat.max (nesting x) (nestingEntries rest)

end

end Yaml

end MockApi
