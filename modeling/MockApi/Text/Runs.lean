/-!
# Runs of code points

A property of characters is kept as ascending, disjoint runs of code points, and a mapping of
characters as runs that are shifted by one distance.
-/

namespace MockApi.Text

/-- A set of characters: first and last code point of each run, ascending. -/
abbrev Runs := List (Nat × Nat)

def Runs.has : Runs → Nat → Bool
  | [], _ => false
  | (first, last) :: rest, n => if n < first then false else decide (n ≤ last) || Runs.has rest n

/-- Code points `first, first + step … last`, each mapped to itself plus `shift`. -/
structure Shift where
  first : Nat
  last : Nat
  step : Nat
  shift : Int

def Shift.covers (s : Shift) (n : Nat) : Bool :=
  decide (s.first ≤ n) && decide (n ≤ s.last) && (n - s.first) % s.step == 0

/-- The code point that a list of shifts maps `n` to; itself where none covers it. -/
def mapBy : List Shift → Nat → Nat
  | [], n => n
  | s :: rest, n => if s.covers n then ((n : Int) + s.shift).toNat else mapBy rest n

def mappedTo (shifts : List Shift) (n : Nat) : List Nat :=
  shifts.filterMap fun s =>
    let source := (n : Int) - s.shift
    if 0 ≤ source ∧ s.covers source.toNat then some source.toNat else none

end MockApi.Text
