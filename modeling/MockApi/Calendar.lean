/-!
# Calendar

Dates of the Gregorian calendar, and moments counted in milliseconds from the start of 1970, with the
texts that show them.
-/

namespace MockApi

structure Date where
  year : Int
  month : Nat
  day : Nat
deriving DecidableEq

namespace Date

def isLeap (year : Int) : Bool :=
  year.emod 4 == 0 && (year.emod 100 != 0 || year.emod 400 == 0)

/-- The days of a month; none for a month that there is not. -/
def daysIn (year : Int) (month : Nat) : Nat :=
  match month with
  | 1 | 3 | 5 | 7 | 8 | 10 | 12 => 31
  | 4 | 6 | 9 | 11 => 30
  | 2 => if isLeap year then 29 else 28
  | _ => 0

def isValid (d : Date) : Bool := decide (1 ≤ d.day) && decide (d.day ≤ daysIn d.year d.month)

/-- The date that lies a number of days after the first of January 1970. Years are counted from
March, in cycles of 400. -/
def ofDays (days : Int) : Date :=
  let shifted := days + 719468
  let era := shifted.ediv 146097
  let inEra := shifted.emod 146097
  let yearOfEra := (inEra - inEra / 1460 + inEra / 36524 - inEra / 146096) / 365
  let inYear := inEra - (365 * yearOfEra + yearOfEra / 4 - yearOfEra / 100)
  let marchMonth := (5 * inYear + 2) / 153
  let day := inYear - (153 * marchMonth + 2) / 5 + 1
  let month := if marchMonth < 10 then marchMonth + 3 else marchMonth - 9
  ⟨yearOfEra + era * 400 + (if month ≤ 2 then 1 else 0), month.toNat, day.toNat⟩

end Date

def padded (width n : Nat) : String :=
  let digits := toString n
  String.ofList (List.replicate (width - digits.length) '0') ++ digits

/-- A moment, in milliseconds from the start of 1970. -/
structure Instant where
  millis : Int
deriving DecidableEq

namespace Instant

def seconds (t : Instant) : Int := t.millis.ediv 1000

def earlier (t : Instant) (seconds : Nat) : Instant := ⟨t.millis - 1000 * seconds⟩

def dateText (t : Instant) : String :=
  let d := Date.ofDays (t.seconds.ediv 86400)
  padded 4 d.year.toNat ++ "-" ++ padded 2 d.month ++ "-" ++ padded 2 d.day

def timeText (t : Instant) : String :=
  let s := (t.seconds.emod 86400).toNat
  padded 2 (s / 3600) ++ ":" ++ padded 2 (s / 60 % 60) ++ ":" ++ padded 2 (s % 60)

def secondText (t : Instant) : String := t.dateText ++ "T" ++ t.timeText ++ "Z"

def milliText (t : Instant) : String :=
  t.dateText ++ "T" ++ t.timeText ++ "." ++ padded 3 (t.millis.emod 1000).toNat ++ "Z"

end Instant

end MockApi
