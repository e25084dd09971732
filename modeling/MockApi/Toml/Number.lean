import MockApi.Toml

/-!
# TOML numbers

Whole numbers of 64 bits in four bases, and doubles. An underscore may stand between two digits.
-/

namespace MockApi.Toml

/-- Digits without the underscores between them; `none` where one stands elsewhere. -/
def joinDigits (isDigit : Char → Bool) : List Char → Option (List Char)
  | [] => none
  | [c] => if isDigit c then some [c] else none
  | c :: '_' :: rest => if isDigit c then (joinDigits isDigit rest).map (c :: ·) else none
  | c :: rest => if isDigit c then (joinDigits isDigit rest).map (c :: ·) else none

def digitIn? (base : Nat) (c : Char) : Option Nat :=
  let value : Option Nat :=
    if c.isDigit then some (c.toNat - 48)
    else if 'a' ≤ c ∧ c ≤ 'f' then some (c.toNat - 87)
    else if 'A' ≤ c ∧ c ≤ 'F' then some (c.toNat - 55)
    else none
  value.filter (· < base)

def natIn? (base : Nat) (s : List Char) : Option Nat :=
  (joinDigits (fun c => (digitIn? base c).isSome) s).map
    (·.foldl (fun n c => n * base + (digitIn? base c).getD 0) 0)

def decimalDigits? (s : List Char) : Option (List Char) :=
  (joinDigits Char.isDigit s).filter fun digits =>
    digits.head? != some '0' || digits.length == 1

def readInt? (s : List Char) : Option Int :=
  let n : Option Int := match s with
    | '0' :: 'x' :: digits => (natIn? 16 digits).map Int.ofNat
    | '0' :: 'o' :: digits => (natIn? 8 digits).map Int.ofNat
    | '0' :: 'b' :: digits => (natIn? 2 digits).map Int.ofNat
    | _ =>
      let (negative, digits) := Binary64.readSign s
      (decimalDigits? digits).map fun digits =>
        let n : Int := Binary64.digitsValue digits
        if negative then -n else n
  n.filter fun n => decide (-(2 ^ 63 : Nat) ≤ n) && decide (n < (2 ^ 63 : Nat))

def readExponent? : List Char → Option Int
  | [] => some 0
  | e :: rest =>
    if e ≠ 'e' ∧ e ≠ 'E' then none
    else
      let (negative, digits) := Binary64.readSign rest
      (joinDigits Char.isDigit digits).map fun digits =>
        let n : Int := Binary64.digitsValue digits
        if negative then -n else n

def isDigitOrLine (c : Char) : Bool := c.isDigit || c == '_'

def readFraction? : List Char → Option (List Char × List Char)
  | '.' :: rest =>
    (joinDigits Char.isDigit (rest.takeWhile isDigitOrLine)).map (·, rest.dropWhile isDigitOrLine)
  | rest => some ([], rest)

/-- A number with a fraction, an exponent or both. What is too large for a double is refused. -/
def readReal? (s : List Char) : Option Binary64 := do
  let (negative, s) := Binary64.readSign s
  if s = "inf".toList then return .infinite negative
  if s = "nan".toList then return .nan
  if s.all isDigitOrLine then none
  let whole ← decimalDigits? (s.takeWhile isDigitOrLine)
  let (fraction, rest) ← readFraction? (s.dropWhile isDigitOrLine)
  let exponent ← readExponent? rest
  match Binary64.ofDecimal negative (Binary64.digitsValue (whole ++ fraction))
      (exponent - fraction.length) with
  | .finite x => some (.finite x)
  | _ => none

def readNumber? (s : List Char) : Option Toml :=
  match readInt? s with
  | some n => some (.whole n)
  | none => (readReal? s).map .real

end MockApi.Toml
