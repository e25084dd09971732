import MockApi.Power
import MockApi.Text.Categories
import MockApi.Text.Character

/-!
# Regular expressions

The expressions that patterns write, what they match, and a matcher. `Regex.Matches` says which texts
an expression matches, given the character before and the one after, which anchors and word
boundaries look at. The matcher follows all ways through the expression at once: what is left to match
after one more character is a list of expressions (`Regex.after`).
-/

namespace MockApi

namespace Regex

inductive Property
  | any
  | ascii
  | assigned
  | alphabetic
  | lowercase
  | uppercase
  | blank
  | word
  | letter
  | upperLetter
  | lowerLetter
  | titleLetter
  | casedLetter
  | modifierLetter
  | otherLetter
  | mark
  | plainMark
  | spacingMark
  | enclosingMark
  | number
  | decimal
  | letterNumber
  | otherNumber
  | punctuation
  | symbol
  | separator
deriving DecidableEq

open Text in
def Property.has (p : Property) (c : Char) : Bool :=
  let n := c.toNat
  let lowerLetter := lowercaseRuns.has n && letterRuns.has n && !modifierLetterRuns.has n &&
    n != 0xAA && n != 0xBA
  let upperLetter := uppercaseRuns.has n && letterRuns.has n
  match p with
  | any | assigned => true
  | ascii => decide (n < 128)
  | alphabetic => alphabeticRuns.has n
  | lowercase => lowercaseRuns.has n
  | uppercase => uppercaseRuns.has n
  | blank => blankRuns.has n
  | word => alphabeticRuns.has n || decimalRuns.has n || markRuns.has n || connectorRuns.has n
  | letter => letterRuns.has n
  | .upperLetter => upperLetter
  | .lowerLetter => lowerLetter
  | titleLetter => titleLetterRuns.has n
  | casedLetter => upperLetter || lowerLetter || titleLetterRuns.has n
  | modifierLetter => modifierLetterRuns.has n
  | otherLetter => letterRuns.has n && !upperLetter && !lowerLetter && !titleLetterRuns.has n &&
      !modifierLetterRuns.has n
  | mark => markRuns.has n
  | plainMark => markRuns.has n && !spacingMarkRuns.has n && !enclosingMarkRuns.has n
  | spacingMark => spacingMarkRuns.has n
  | enclosingMark => enclosingMarkRuns.has n
  | number => numberRuns.has n
  | decimal => decimalRuns.has n
  | letterNumber => letterNumberRuns.has n
  | otherNumber => numberRuns.has n && !decimalRuns.has n && !letterNumberRuns.has n
  | punctuation => punctuationRuns.has n
  | symbol => symbolRuns.has n
  | separator => separatorRuns.has n

inductive CharSet
  | range (first last : Char)
  | property (p : Property)
  | none
  | union (a b : CharSet)
  | inter (a b : CharSet)
  | complement (a : CharSet)
  /-- The characters that are in the set when case does not count. -/
  | anyCase (a : CharSet)
deriving DecidableEq

def CharSet.has : CharSet → Char → Bool
  | range first last, c => decide (first ≤ c) && decide (c ≤ last)
  | property p, c => p.has c
  | none, _ => false
  | union a b, c => a.has c || b.has c
  | inter a b, c => a.has c && b.has c
  | complement a, c => !a.has c
  | anyCase a, c => a.has c || (Text.caseVariants c).any a.has

def CharSet.one (c : Char) : CharSet := .range c c

inductive Assertion
  | startText
  | endText
  | startLine
  | endLine
  | boundary (word : CharSet)
  | inside (word : CharSet)
  | wordStart (word : CharSet)
  | wordEnd (word : CharSet)
  | halfStart (word : CharSet)
  | halfEnd (word : CharSet)
deriving DecidableEq

def Assertion.holds (a : Assertion) (before after : Option Char) : Bool :=
  match a with
  | startText => before.isNone
  | endText => after.isNone
  | startLine => before.all (· == '\n')
  | endLine => after.all (· == '\n')
  | boundary word => before.any word.has != after.any word.has
  | inside word => before.any word.has == after.any word.has
  | wordStart word => !before.any word.has && after.any word.has
  | wordEnd word => before.any word.has && !after.any word.has
  | halfStart word => !before.any word.has
  | halfEnd word => !after.any word.has

end Regex

inductive Regex
  | empty
  | set (s : Regex.CharSet)
  | assertion (a : Regex.Assertion)
  | concat (r s : Regex)
  | alt (r s : Regex)
  | repetition (r : Regex) (min : Nat) (max : Option Nat)
deriving DecidableEq

namespace Regex

/-- `Matches before r s after` says that `r` matches the text `s` between two characters. -/
inductive Matches : Option Char → Regex → List Char → Option Char → Prop
  | empty {before after} : Matches before .empty [] after
  | set {before after s c} (h : s.has c = true) : Matches before (.set s) [c] after
  | assertion {before after a} (h : a.holds before after = true) :
      Matches before (.assertion a) [] after
  | concat {before after r s u v} (hr : Matches before r u (v.head?.or after))
      (hs : Matches (u.getLast?.or before) s v after) : Matches before (.concat r s) (u ++ v) after
  | left {before after r s u} (h : Matches before r u after) : Matches before (.alt r s) u after
  | right {before after r s u} (h : Matches before s u after) : Matches before (.alt r s) u after
  | done {before after r max} : Matches before (.repetition r 0 max) [] after
  | more {before after r min max u v} (hm : max ≠ some 0) (hr : Matches before r u (v.head?.or after))
      (hs : Matches (u.getLast?.or before) (.repetition r (min - 1) (max.map (· - 1))) v after) :
      Matches before (.repetition r min max) (u ++ v) after

/-! ### Matching -/

def nullable (before after : Option Char) : Regex → Bool
  | empty => true
  | set _ => false
  | assertion a => a.holds before after
  | concat r s => nullable before after r && nullable before after s
  | alt r s => nullable before after r || nullable before after s
  | repetition r min _ => min == 0 || nullable before after r

def andThen : Regex → Regex → Regex
  | empty, s => s
  | r, s => concat r s

/-- What is left to match after a character: one of these. -/
def after (before : Option Char) (c : Char) : Regex → List Regex
  | empty => []
  | set s => if s.has c then [empty] else []
  | assertion _ => []
  | concat r s =>
    (after before c r).map (·.andThen s) ++
      if nullable before (some c) r then after before c s else []
  | alt r s => after before c r ++ after before c s
  | repetition r min max =>
    if max = some 0 then []
    else
      -- Copies in front of the one that takes the character may match the empty text.
      let skipped := if nullable before (some c) r then min - 1 else 0
      (List.range (skipped + 1)).flatMap fun k =>
        (after before c r).map (·.andThen (repetition r (min - 1 - k) (max.map (· - 1 - k))))

def distinct : List Regex → List Regex
  | [] => []
  | r :: rest =>
    let rest := distinct rest
    if rest.contains r then rest else r :: rest

/-- Whether one of the expressions, or `start` begun later, matches a part of the text. -/
def search (start : Regex) (before : Option Char) (active : List Regex) : List Char → Bool
  | [] => (start :: active).any (nullable before none)
  | c :: rest =>
    (start :: active).any (nullable before (some c)) ||
      search start (some c) (distinct ((start :: active).flatMap (after before c))) rest

def isMatch (r : Regex) (s : String) : Bool := search r none [] s.toList

/-! ### Size -/

def CharSet.weight : CharSet → Nat
  | range first last => if last.toNat < 128 then 32 else if first = last then 96 else 400
  | property .word | property .alphabetic | property .letter => 46000
  | property .decimal => 4000
  | property .blank => 600
  | property .any | property .assigned => 500
  | property _ => 30000
  | none => 0
  | union a b | inter a b => a.weight + b.weight
  | complement a => a.weight + 400
  | anyCase a => 2 * a.weight

def weight : Regex → Nat
  | empty => 0
  | set s => s.weight
  | assertion _ => 32
  | concat r s | alt r s => weight r + weight s + 16
  | repetition r min max => (match max with
    | some m => m
    | none => min + 1) * (weight r + 16)

/-- An expression that would take more than this is refused. -/
def weightLimit : Nat := 10 * 2 ^ 20

end Regex

end MockApi
