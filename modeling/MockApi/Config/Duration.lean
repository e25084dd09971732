import MockApi.Power
import MockApi.Text.Parts

/-!
# Durations

A duration is a whole number of milliseconds. It is written as a number with `ms`, `s` or `m` behind it,
or of seconds without any unit, and is shown in milliseconds.
-/

namespace MockApi

structure Duration where
  millis : Nat
deriving DecidableEq

namespace Duration

open Text

def ofSeconds (n : Nat) : Duration := ⟨1000 * n⟩

/-- Numbers in a duration have 64 bits, and so has the number of seconds that minutes make. -/
def numberLimit : Nat := 2 ^ 64

def number? (s : List Char) : Option Nat := readNat? numberLimit (trimChars s)

def ofString? (s : String) : Option Duration :=
  let chars := trimChars s.toList
  match dropFinish ['m', 's'] chars with
  | some digits => (number? digits).map (⟨·⟩)
  | none => match dropFinish ['s'] chars with
    | some digits => (number? digits).map ofSeconds
    | none => match dropFinish ['m'] chars with
      | some digits => (number? digits).map fun n => ofSeconds (n * 60 % numberLimit)
      | none => (readNat? numberLimit chars).map ofSeconds

def text (d : Duration) : String := toString d.millis ++ "ms"

end Duration

end MockApi
