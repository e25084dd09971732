import MockApi.Binary64.Decimal
import MockApi.Text.Parts

/-!
# Reading decimals

A decimal is rounded once, to the nearest double. It may be written with a sign, without digits on one
side of its point, and with an exponent.
-/

namespace MockApi.Binary64

open Text

/-- The double nearest to `digits * 10 ^ exponent`. What is far beyond the greatest or the least double
is not computed. -/
def ofDecimal (negative : Bool) (digits : Nat) (exponent : Int) : Binary64 :=
  let magnitude := digitCount digits + exponent
  if digits = 0 ∨ magnitude < -330 then ofRatio negative 0 1
  else if 330 < magnitude then .infinite negative
  else ofRatio negative (digits * unitsPerOne * 10 ^ exponent.toNat) (10 ^ (-exponent).toNat)

def digitsValue (digits : List Char) : Nat :=
  digits.foldl (fun n c => n * 10 + (c.toNat - 48)) 0

def readSign : List Char → Bool × List Char
  | '+' :: rest => (false, rest)
  | '-' :: rest => (true, rest)
  | rest => (false, rest)

def readExponent? : List Char → Option Int
  | [] => some 0
  | e :: rest =>
    if e ≠ 'e' ∧ e ≠ 'E' then none
    else
      let (negative, digits) := readSign rest
      if digits.isEmpty || !digits.all Char.isDigit then none
      else some (if negative then -(digitsValue digits : Int) else digitsValue digits)

def ofChars? (s : List Char) : Option Binary64 :=
  let (negative, s) := readSign s
  let whole := s.takeWhile Char.isDigit
  let (fraction, rest) : List Char × List Char := match s.dropWhile Char.isDigit with
    | '.' :: rest => (rest.takeWhile Char.isDigit, rest.dropWhile Char.isDigit)
    | rest => ([], rest)
  if whole.isEmpty && fraction.isEmpty then none
  else (readExponent? rest).map fun exponent =>
    ofDecimal negative (digitsValue (whole ++ fraction)) (exponent - fraction.length)

end MockApi.Binary64
