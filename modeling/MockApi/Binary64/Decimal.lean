import MockApi.Binary64

/-!
# Decimal text of binary64 numbers

`shortest` gives the fewest digits that read back as the same number, and of those the nearest to
it. A `Layout` says how such digits are written: where the point may stand, whether a whole number
keeps a fraction, and which digit an exact tie takes.
-/

namespace MockApi.Binary64

/-- The magnitude `digits * 10 ^ exponent`; the last digit is not zero unless the number is. -/
structure Decimal where
  digits : Nat
  exponent : Int
deriving DecidableEq

/-- Which of two equally near neighbours is taken. -/
inductive Tie
  | toEven
  | up
deriving DecidableEq

def digitCount (n : Nat) : Nat := if n = 0 then 0 else (Nat.toDigits 10 n).length

def leadingExponent (num den : Nat) : Int :=
  if den ≤ num then (digitCount (num / den) : Int) - 1
  else -(digitCount ((den + num - 1) / num - 1) : Int)

def Decimal.trim : Nat → Nat → Int → Decimal
  | 0, digits, exponent => ⟨digits, exponent⟩
  | fuel + 1, digits, exponent =>
    if digits ≠ 0 ∧ digits % 10 = 0 then trim fuel (digits / 10) (exponent + 1)
    else ⟨digits, exponent⟩

def tenPower (e : Int) : Nat × Nat := (10 ^ e.toNat, 10 ^ (-e).toNat)

/-- The neighbour of `units` on the grid of `10 ^ e` that reads back as `units`, if there is one;
the nearer of two. -/
def gridNeighbour (tie : Tie) (units : Nat) (e : Int) : Option Nat :=
  let step := spacing units
  -- Everything is measured in quarters of a unit, times the denominator of the power of ten.
  let (up, down) := tenPower e
  let cell := 4 * unitsPerOne * up
  let value := 4 * units * down
  let below := if step ≠ 1 ∧ units = step * 2 ^ 52 then step * down else 2 * step * down
  let above := 2 * step * down
  let even := units / step % 2 = 0
  let low := value / cell
  let rest := value % cell
  let fitsLow := rest < below ∨ (even ∧ rest = below)
  let fitsHigh := cell - rest < above ∨ (even ∧ cell - rest = above)
  if fitsLow ∧ fitsHigh then
    if 2 * rest < cell then some low
    else if cell < 2 * rest then some (low + 1)
    else match tie with
      | .toEven => some (if low % 2 = 0 then low else low + 1)
      | .up => some (low + 1)
  else if fitsLow then some low
  else if fitsHigh then some (low + 1)
  else none

def shortestFrom (tie : Tie) (units : Nat) : Nat → Int → Decimal
  | 0, e => ⟨0, e⟩
  | fuel + 1, e =>
    match gridNeighbour tie units e with
    | some digits => if digits = 0 then shortestFrom tie units fuel (e - 1)
        else Decimal.trim 20 digits e
    | none => shortestFrom tie units fuel (e - 1)

/-- The fewest digits that read back as the magnitude. -/
def shortest (tie : Tie) (units : Nat) : Decimal :=
  if units = 0 then ⟨0, 0⟩ else shortestFrom tie units 20 (leadingExponent units unitsPerOne)

structure Layout where
  /-- The places of the point, counted from the first digit, that need no exponent. -/
  leastPoint : Option Int
  mostPoint : Option Int
  wholeSuffix : String
  exponentPlus : String
  tie : Tie

def zeros (n : Nat) : String := String.ofList (List.replicate n '0')

def Finite.text (layout : Layout) (x : Finite) : String :=
  let d := shortest layout.tie x.units
  let digits := Nat.toDigits 10 d.digits
  let point : Int := digits.length + d.exponent
  let positional := layout.leastPoint.all (· ≤ point) && layout.mostPoint.all (point ≤ ·)
  let body :=
    if d.digits = 0 then "0" ++ layout.wholeSuffix
    else if positional then
      if 0 ≤ d.exponent then String.ofList digits ++ zeros d.exponent.toNat ++ layout.wholeSuffix
      else if 0 < point then
        String.ofList (digits.take point.toNat) ++ "." ++ String.ofList (digits.drop point.toNat)
      else "0." ++ zeros (-point).toNat ++ String.ofList digits
    else
      let fraction := if digits.length ≤ 1 then "" else "." ++ String.ofList (digits.drop 1)
      let e := point - 1
      let sign := if e < 0 then "-" else layout.exponentPlus
      String.ofList (digits.take 1) ++ fraction ++ "e" ++ sign ++ toString e.natAbs
  if x.negative then "-" ++ body else body

/-- In JSON a number is written out from `0.00001` to below `10 ^ 16`, keeps `.0` when it is
whole, and otherwise has an exponent with its sign. -/
def jsonLayout : Layout := ⟨some (-4), some 16, ".0", "+", .toEven⟩

/-- In messages a number is always written out, and a whole one without a point. -/
def plainLayout : Layout := ⟨none, none, "", "", .up⟩

def plainText : Binary64 → String
  | .finite x => x.text plainLayout
  | .infinite false => "inf"
  | .infinite true => "-inf"
  | .nan => "NaN"

/-! ### Reading -/

def powerOfTen (n : Nat) : Binary64 := ofNat (10 ^ n)

/-- A significand scaled by a power of ten the way JSON numbers are read: the significand is
rounded first, then multiplied or divided by rounded powers; `none` if that is too large. -/
def scaleByTen (negative : Bool) (significand : Nat) (exponent : Int) : Option Finite :=
  let rec go : Nat → Binary64 → Int → Binary64
    | 0, x, _ => x
    | fuel + 1, x, e =>
      if e.natAbs ≤ 308 then
        if 0 ≤ e then mul x (powerOfTen e.natAbs) else div x (powerOfTen e.natAbs)
      else if eq x zero then x
      else if 0 ≤ e then .infinite false
      else go fuel (div x (powerOfTen 308)) (e + 308)
  match go 8 (ofNat significand) exponent with
  | .finite x => some ⟨negative, x.units, x.onGrid⟩
  | _ => none

end MockApi.Binary64
