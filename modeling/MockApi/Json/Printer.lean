import MockApi.Json

/-!
# Writing JSON

`Json.compact` writes a value on one line without blanks; `Json.pretty` puts every element and
member on a line of its own, indented by two blanks a level.
-/

namespace MockApi.Json

def hexDigit (n : Nat) : Char := Char.ofNat (if n < 10 then 48 + n else 87 + n)

/-- A character inside a quoted text. Only quotes, backslashes and control characters are escaped. -/
def escapeChar (c : Char) : List Char :=
  match c with
  | '"' => ['\\', '"']
  | '\\' => ['\\', '\\']
  | '\n' => ['\\', 'n']
  | '\r' => ['\\', 'r']
  | '\t' => ['\\', 't']
  | c =>
    if c.toNat = 8 then ['\\', 'b']
    else if c.toNat = 12 then ['\\', 'f']
    else if c.toNat < 32 then ['\\', 'u', '0', '0', hexDigit (c.toNat / 16), hexDigit (c.toNat % 16)]
    else [c]

def quoted (s : String) : String := "\"" ++ String.ofList (s.toList.flatMap escapeChar) ++ "\""

def Number.text : Number → String
  | .whole n => toString n
  | .double x => x.text Binary64.jsonLayout

mutual

def compact : Json → String
  | .null => "null"
  | .bool true => "true"
  | .bool false => "false"
  | .number n => n.text
  | .string s => quoted s
  | .array elements => "[" ++ compactElements true elements ++ "]"
  | .object members => "\x7b" ++ compactMembers true members ++ "\x7d"

def compactElements (first : Bool) : List Json → String
  | [] => ""
  | x :: rest => (if first then "" else ",") ++ compact x ++ compactElements false rest

def compactMembers (first : Bool) : List (String × Json) → String
  | [] => ""
  | (name, x) :: rest =>
    (if first then "" else ",") ++ quoted name ++ ":" ++ compact x ++ compactMembers false rest

end

def newLine (level : Nat) : String := "\n" ++ String.ofList (List.replicate (2 * level) ' ')

mutual

def prettyAt (level : Nat) : Json → String
  | .array [] => "[]"
  | .array elements => "[" ++ prettyElements (level + 1) true elements ++ newLine level ++ "]"
  | .object [] => "\x7b\x7d"
  | .object members =>
    "\x7b" ++ prettyMembers (level + 1) true members ++ newLine level ++ "\x7d"
  | .null => "null"
  | .bool true => "true"
  | .bool false => "false"
  | .number n => n.text
  | .string s => quoted s

def prettyElements (level : Nat) (first : Bool) : List Json → String
  | [] => ""
  | x :: rest =>
    (if first then "" else ",") ++ newLine level ++ prettyAt level x ++
      prettyElements level false rest

def prettyMembers (level : Nat) (first : Bool) : List (String × Json) → String
  | [] => ""
  | (name, x) :: rest =>
    (if first then "" else ",") ++ newLine level ++ quoted name ++ ": " ++ prettyAt level x ++
      prettyMembers level false rest

end

def pretty (value : Json) : String := prettyAt 0 value

end MockApi.Json
