import MockApi.Json.Printer
import MockApi.Yaml

/-!
# Writing YAML

A value in block form: the members of an object on lines of their own, objects inside them indented by two,
and the elements of an array behind dashes that are not indented. A text is written plain unless it could be
taken for something else, then in single quotes, and in double quotes if it holds what has to be escaped.
-/

namespace MockApi.Yaml

/-- A double is written out from `0.00001` to below `10 ^ 16`, keeps `.0` when it is whole, and otherwise
has an exponent without a plus sign. -/
def realLayout : Binary64.Layout := ⟨some (-4), some 16, ".0", "", .toEven⟩

/-! ### Texts -/

def isPrintable (c : Char) : Bool :=
  let n := c.toNat
  c == '\n' || (decide (0x20 ≤ n) && decide (n ≤ 0x7E)) || n == 0x85 ||
    (decide (0xA0 ≤ n) && n != 0xFEFF && n != 0xFFFE && n != 0xFFFF)

def isBreak (c : Char) : Bool :=
  c == '\n' || c == '\r' || [0x85, 0x2028, 0x2029].contains c.toNat

def isLeadingMark (c : Char) : Bool := "#,[]\x7b\x7d&*!|>'\"%@\x60".toList.contains c

/-- Whether no part of a text behind its start means something: a colon before a blank, or a number sign
behind one. -/
def isInnerPlain (afterBlank : Bool) : List Char → Bool
  | [] => true
  | c :: rest =>
    !(c == ':' && endsPlain rest) && !(c == '#' && afterBlank) && isInnerPlain (isGap c) rest
where
  isGap (c : Char) : Bool := c == ' ' || c == '\t' || isBreak c
  endsPlain : List Char → Bool
    | [] => true
    | c :: _ => isGap c

def isPlainText (s : List Char) : Bool :=
  let startsPlain := match s with
    | [] => true
    | c :: rest =>
      !isLeadingMark c &&
        !("-?:".toList.contains c && isInnerPlain.endsPlain rest) && isInnerPlain false rest
  startsPlain && s.all (fun c => isPrintable c && !isBreak c) && s.head? != some ' ' &&
    s.getLast? != some ' ' && s.take 3 != ['-', '-', '-'] && s.take 3 != ['.', '.', '.']

def isAmbiguous (s : String) : Bool :=
  hasLeadingZero s.toList || match wordJson? s with
    | some (.string _) => false
    | _ => true

def hexDigits (width n : Nat) : List Char :=
  let digits := (Nat.toDigits 16 n).map Char.toUpper
  List.replicate (width - digits.length) '0' ++ digits

def escapeChar (c : Char) : List Char :=
  match c.toNat with
  | 0 => ['\\', '0']
  | 7 => ['\\', 'a']
  | 8 => ['\\', 'b']
  | 9 => ['\\', 't']
  | 10 => ['\\', 'n']
  | 11 => ['\\', 'v']
  | 12 => ['\\', 'f']
  | 13 => ['\\', 'r']
  | 27 => ['\\', 'e']
  | 34 => ['\\', '"']
  | 92 => ['\\', '\\']
  | 0x85 => ['\\', 'N']
  | 0x2028 => ['\\', 'L']
  | 0x2029 => ['\\', 'P']
  | n =>
    if isPrintable c then [c]
    else if n < 2 ^ 8 then ['\\', 'x'] ++ hexDigits 2 n
    else if n < 2 ^ 16 then ['\\', 'u'] ++ hexDigits 4 n
    else ['\\', 'U'] ++ hexDigits 8 n

def doubleQuoted (s : List Char) : List Char := ['"'] ++ s.flatMap escapeChar ++ ['"']

def singleQuoted (s : List Char) : List Char :=
  ['\''] ++ s.flatMap (fun c => if c = '\'' then ['\'', '\''] else [c]) ++ ['\'']

def literalBlock (indent : Nat) (s : List Char) : List Char :=
  let hint : List Char := if s.head?.any (fun c => c == ' ' || c == '\n') then ['2'] else []
  let backward := s.reverse
  let chomping : List Char :=
    if backward.head? ≠ some '\n' then ['-']
    else if backward.length = 1 ∨ (backward.drop 1).head? = some '\n' then ['+']
    else []
  let line (l : List Char) : List Char :=
    '\n' :: if l.isEmpty then [] else List.replicate indent ' ' ++ l
  let lines := Text.splitOn '\n' (if backward.head? = some '\n' then s.dropLast else s)
  ['|'] ++ hint ++ chomping ++ lines.flatMap line

def scalarText (indent : Nat) (s : String) : String :=
  let chars := s.toList
  String.ofList <|
    if chars.contains '\n' then
      if chars.all isPrintable && chars.getLast? != some ' ' then literalBlock indent chars
      else doubleQuoted chars
    else if !isAmbiguous s && isPlainText chars then chars
    else if chars.all (fun c => isPrintable c && !isBreak c) then singleQuoted chars
    else doubleQuoted chars

/-! ### Values -/

def spaces (n : Nat) : String := String.ofList (List.replicate n ' ')

def leafText (indent : Nat) : Json → String
  | .null => "null"
  | .bool b => if b then "true" else "false"
  | .number (.whole n) => toString n
  | .number (.double x) => x.text realLayout
  | .string s => scalarText indent s
  | .array _ => "[]"
  | .object _ => "\x7b\x7d"

mutual

def renderMember (indent : Nat) : Json → String
  | .array (x :: rest) => "\n" ++ renderElements indent (x :: rest)
  | .object (entry :: rest) => "\n" ++ renderMembers (indent + 2) true (entry :: rest)
  | leaf => " " ++ leafText (indent + 2) leaf ++ "\n"

def renderElement (indent : Nat) : Json → String
  | .array (x :: rest) => " " ++ renderElement (indent + 2) x ++ renderElements (indent + 2) rest
  | .object (entry :: rest) => " " ++ renderMembers (indent + 2) false (entry :: rest)
  | leaf => " " ++ leafText (indent + 2) leaf ++ "\n"

def renderElements (indent : Nat) : List Json → String
  | [] => ""
  | x :: rest =>
    spaces indent ++ "-" ++ renderElement indent x ++ renderElements indent rest

def renderMembers (indent : Nat) (ownLine : Bool) : List (String × Json) → String
  | [] => ""
  | (key, x) :: rest =>
    (if ownLine then spaces indent else "") ++ scalarText indent key ++ ":" ++
      renderMember indent x ++ renderMembers indent true rest

end

def render : Json → String
  | .object (entry :: rest) => renderMembers 0 true (entry :: rest)
  | .array (x :: rest) => renderElements 0 (x :: rest)
  | leaf => leafText 2 leaf ++ "\n"

end MockApi.Yaml
