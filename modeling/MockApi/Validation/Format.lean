import MockApi.Calendar
import MockApi.Text.Address

/-!
# Checks of formats

Which texts are of a format that the `format` keyword names. The name may be written in any case, and a
format without a check admits every text.
-/

namespace MockApi.Validation

open Text

/-! ### Identifiers -/

def isHexGroups : List Nat → List Char → Bool
  | [], s => s.isEmpty
  | [size], s => s.length == size && s.all Address.isHexDigit
  | size :: sizes, s =>
    (s.take size).length == size && (s.take size).all Address.isHexDigit &&
      match s.drop size with
      | '-' :: rest => isHexGroups sizes rest
      | _ => false

/-- A UUID: 32 hexadecimal digits, or groups of them with hyphens, which may stand in braces or behind a
name. -/
def isUuid (s : String) : Bool :=
  let chars := s.toList
  let hyphenated := isHexGroups [8, 4, 4, 4, 12]
  isHexGroups [32] chars || hyphenated chars ||
    (match chars with
      | '\x7b' :: rest => (dropFinish ['\x7d'] rest).any hyphenated
      | _ => false) ||
    ((chars.take 9).map Char.toLower == "urn:uuid:".toList && hyphenated (chars.drop 9))

/-! ### Dates and times -/

def digits? (least most : Nat) (s : List Char) : Option (Nat × List Char) :=
  let digits := (s.take most).takeWhile Char.isDigit
  if digits.length < least then none
  else some (digits.foldl (fun n c => n * 10 + (c.toNat - 48)) 0, s.drop digits.length)

def expect (c : Char) : List Char → Option (List Char)
  | d :: rest => if c = d then some rest else none
  | [] => none

def isOffset (s : List Char) : Bool :=
  match s with
  | ['Z'] | ['z'] => true
  | sign :: rest =>
    (sign == '+' || sign == '-' || sign == Char.ofNat 0x2212) &&
      (do
        let (hours, rest) ← digits? 2 2 rest
        let rest ← expect ':' rest
        let (minutes, rest) ← digits? 2 2 rest
        return decide (hours < 24) && decide (minutes < 60) && rest.isEmpty).getD false
  | [] => false

/-- The rest behind a fraction of a second, if there is one; its point needs a digit behind it. -/
def afterFraction (s : List Char) : Option (List Char) :=
  match s with
  | '.' :: rest =>
    if (rest.takeWhile Char.isDigit).isEmpty then none else some (rest.dropWhile Char.isDigit)
  | s => some s

/-- A date and a time with an offset, of which the second may be a leap second. -/
def isDateTime (s : String) : Bool :=
  (do
    let (year, s) ← digits? 4 4 s.toList
    let s ← expect '-' s
    let (month, s) ← digits? 2 2 s
    let s ← expect '-' s
    let (day, s) ← digits? 2 2 s
    let s ← match s with
      | 'T' :: rest | 't' :: rest | ' ' :: rest => some rest
      | _ => none
    let (hour, s) ← digits? 2 2 s
    let s ← expect ':' s
    let (minute, s) ← digits? 2 2 s
    let s ← expect ':' s
    let (second, s) ← digits? 2 2 s
    let s ← afterFraction s
    return (Date.mk year month day).isValid && decide (hour < 24) && decide (minute < 60) &&
      decide (second ≤ 60) && isOffset s).getD false

def year? (s : List Char) : Option (Int × List Char) :=
  match s.dropWhile isBlank with
  | '-' :: rest => (digits? 1 rest.length rest).map fun (n, rest) => (-(n : Int), rest)
  | '+' :: rest => (digits? 1 rest.length rest).map fun (n, rest) => ((n : Int), rest)
  | rest => (digits? 1 4 rest).map fun (n, rest) => ((n : Int), rest)

def isDate (s : String) : Bool :=
  (do
    let (year, s) ← year? s.toList
    let s ← expect '-' s
    let (month, s) ← digits? 1 2 (s.dropWhile isBlank)
    let s ← expect '-' s
    let (day, s) ← digits? 1 2 (s.dropWhile isBlank)
    return (Date.mk year month day).isValid && decide (-262143 ≤ year) && decide (year ≤ 262142) &&
      s.isEmpty).getD false

/-! ### Mail addresses -/

/-- Something before the first at sign, and behind it a domain with a point that does not come first. -/
def isEmail (s : String) : Bool :=
  match splitOnce '@' s.toList with
  | some (part, domain) => !part.isEmpty && domain.contains '.' && domain.head? != some '.'
  | none => false

def formatMatches (format s : String) : Bool :=
  match lowerAscii format with
  | "uuid" => isUuid s
  | "date-time" => isDateTime s
  | "date" => isDate s
  | "email" | "idn-email" => isEmail s
  | "ipv4" => Address.isV4 s
  | "ipv6" => Address.isV6 s
  | _ => true

end MockApi.Validation
