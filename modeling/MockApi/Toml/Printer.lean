import MockApi.Binary64.Decimal
import MockApi.Json

/-!
# Writing TOML

An object of objects is written as tables with headers, an empty line between them. What is null has no
text in the format and is left out; a whole number has to fit in 64 bits with its sign.
-/

namespace MockApi.Toml

def realLayout : Binary64.Layout := ⟨none, none, ".0", "", .up⟩

/-! ### Texts -/

def isControl (c : Char) : Bool :=
  (decide (c.toNat < 32) && c != '\t' && c != '\n') || c.toNat == 127

def longestRun (c : Char) : Nat → List Char → Nat
  | run, [] => run
  | run, d :: rest =>
    if d = c then longestRun c (run + 1) rest else Nat.max run (longestRun c 0 rest)

def escapeChar (severalLines : Bool) (c : Char) : List Char :=
  match c with
  | '\x08' => ['\\', 'b']
  | '\t' => ['\\', 't']
  | '\n' => if severalLines then ['\n'] else ['\\', 'n']
  | '\x0c' => ['\\', 'f']
  | '\r' => ['\\', 'r']
  | '"' => ['\\', '"']
  | '\\' => ['\\', '\\']
  | c =>
    if isControl c then
      let digits := (Nat.toDigits 16 c.toNat).map Char.toUpper
      ['\\', 'u'] ++ List.replicate (4 - digits.length) '0' ++ digits
    else [c]

/-- A text between quotes: double ones if nothing has to be escaped, else single ones if they do, else three
of either, else with escapes. -/
def quoted (s : String) : String :=
  let chars := s.toList
  let hasLines := chars.contains '\n'
  let hasControl := chars.any isControl
  let hasEscape := chars.contains '\\'
  let double := longestRun '"' 0 chars
  let single := longestRun '\'' 0 chars
  let start (quote : String) : String := if hasLines then quote ++ "\n" else quote
  if !hasControl && !hasEscape && double = 0 && !hasLines then "\"" ++ s ++ "\""
  else if !hasControl && single = 0 && !hasLines then "'" ++ s ++ "'"
  else if !hasControl && !hasEscape && decide (double < 3) then start "\"\"\"" ++ s ++ "\"\"\""
  else if !hasControl && decide (single < 3) then start "'''" ++ s ++ "'''"
  else
    let body := String.ofList (chars.flatMap (escapeChar hasLines))
    if hasLines then "\"\"\"\n" ++ body ++ "\"\"\"" else "\"" ++ body ++ "\""

/-! ### Values -/

def scalarText? : Json → Option String
  | .bool b => some (if b then "true" else "false")
  | .number (.whole n) => if n < (2 ^ 63 : Nat) then some (toString n) else none
  | .number (.double x) => some (x.text realLayout)
  | .string s => some (quoted s)
  | _ => none

def valueText? : Json → Option String
  | .array [] => some "[]"
  | .array [x] => (scalarText? x).map fun s => "[" ++ s ++ "]"
  | .array elements => do
    let lines ← elements.mapM fun x => (scalarText? x).map fun s => "    " ++ s ++ ",\n"
    return "[\n" ++ String.join lines ++ "]"
  | value => scalarText? value

def entriesText? (members : List (String × Json)) : Option String := do
  let lines ← (members.filter (!·.2.isNull)).mapM fun (key, value) =>
    (valueText? value).map fun s => key ++ " = " ++ s ++ "\n"
  return String.join lines

def tableText? : String × Json → Option String
  | (name, .object members) => (entriesText? members).map fun s => "[" ++ name ++ "]\n" ++ s
  | _ => none

def outOfRange : String := "out-of-range value for u64 type"

def render (tables : List (String × Json)) : Except String String :=
  match tables.mapM tableText? with
  | some texts => .ok ("\n".intercalate texts)
  | none => .error outOfRange

end MockApi.Toml
