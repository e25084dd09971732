import MockApi.Generation.Pattern
import MockApi.Regex

/-!
# Patterns of the common kind

The patterns that are read as they are meant: literal characters, the dot, escapes, classes and groups, with at most
one quantifier behind each, in alternatives that may be anchored at both ends. Each has a text, what is read from it,
and the regular expression that it writes.
-/

namespace MockApi.Generation.Pattern

def Bounds.piece (b : Bounds) (atom : Atom) : Piece Atom := ⟨atom, b.min, b.max, b.unbounded⟩

namespace Written

open Regex (CharSet)

/-! ### Characters -/

/-- Characters that do not stand for themselves outside a class. -/
def reserved : List Char :=
  ['\\', '.', '+', '*', '?', '(', ')', '|', '[', ']', '\x7b', '\x7d', '^', '$']

/-- Characters that stand for themselves behind a backslash. -/
def escapable : List Char := reserved ++ ['#', '&', '-', '~']

/-- Characters that do not stand for themselves inside a class. -/
def reservedInside : List Char := ['[', ']', '\\', '&', '~', '-']

inductive Shorthand
  | digit
  | word
  | blank

namespace Shorthand

def small : Shorthand → Char
  | digit => 'd'
  | word => 'w'
  | blank => 's'

def capital : Shorthand → Char
  | digit => 'D'
  | word => 'W'
  | blank => 'S'

def set : Shorthand → CharSet
  | digit => .property .decimal
  | word => .property .word
  | blank => .property .blank

end Shorthand

/-- What stands behind a backslash, outside a class and inside. -/
inductive Escape
  | among (s : Shorthand)
  | newline
  | tab
  | itself (c : Char) (h : c ∈ escapable)

namespace Escape

def char : Escape → Char
  | among s => s.small
  | newline => 'n'
  | tab => 't'
  | itself c _ => c

def set : Escape → CharSet
  | among s => s.set
  | newline => .one '\n'
  | tab => .one '\t'
  | itself c _ => .one c

end Escape

/-! ### Classes -/

inductive Item
  | single (c : Char) (h : c ∉ reservedInside)
  | range (first last : Char) (hf : first ∉ reservedInside) (hl : last ∉ reservedInside) (ordered : first ≤ last)
  | escape (e : Escape)

namespace Item

def chars : Item → List Char
  | single c _ => [c]
  | range first last _ _ _ => [first, '-', last]
  | escape e => ['\\', e.char]

/-- The characters that are read. -/
def members : Item → List Char
  | single c _ => [c]
  | range first last _ _ _ => charRange first last
  | escape e => escapeMembers e.char

/-- The characters that are meant. -/
def set : Item → CharSet
  | single c _ => .one c
  | range first last _ _ _ => .range first last
  | escape e => e.set

/-- The union of all. -/
def union : List Item → CharSet
  | [] => .none
  | item :: rest => .union item.set (union rest)

end Item

structure Class where
  negated : Bool
  items : List Item
  inhabited : items ≠ []
  /-- A caret in front would negate the class. -/
  caretless : negated = false → (items.flatMap Item.chars).head? ≠ some '^'
  /-- A negated class has a printable character. -/
  leaves : negated = true → ∃ c ∈ charRange '!' '~', (Item.union items).has c = false

namespace Class

/-- The text up to the closing bracket. -/
def body (k : Class) : List Char :=
  (if k.negated then ['^'] else []) ++ k.items.flatMap Item.chars

def members (k : Class) : List Char :=
  if k.negated then (charRange '!' '~').filter (!(k.items.flatMap Item.members).contains ·)
  else k.items.flatMap Item.members

def set (k : Class) : CharSet :=
  if k.negated then .complement (Item.union k.items) else Item.union k.items

end Class

/-! ### Quantifiers -/

def decimalValue (s : List Char) : Nat := s.foldl (fun n c => n * 10 + (c.toNat - 48)) 0

/-- A number of repetitions, as it is written. -/
structure Count where
  chars : List Char
  inhabited : chars ≠ []
  decimal : ∀ c ∈ chars, c ∈ digits
  small : decimalValue chars ≤ repetitionLimit

def Count.value (n : Count) : Nat := decimalValue n.chars

inductive Quantifier
  | optional
  | star
  | plus
  | exactly (n : Count)
  | atLeast (n : Count)
  | between (n m : Count) (ordered : n.value ≤ m.value)

namespace Quantifier

def chars : Quantifier → List Char
  | optional => ['?']
  | star => ['*']
  | plus => ['+']
  | exactly n => braced n.chars
  | atLeast n => braced (n.chars ++ [','])
  | between n m _ => braced (n.chars ++ ',' :: m.chars)
where
  braced (inner : List Char) : List Char := '\x7b' :: (inner ++ ['\x7d'])

def min : Quantifier → Nat
  | optional | star => 0
  | plus => 1
  | exactly n | atLeast n | between n _ _ => n.value

def max : Quantifier → Option Nat
  | optional => some 1
  | star | plus | atLeast _ => none
  | exactly n => some n.value
  | between _ m _ => some m.value

/-- What is read from a quantifier, or where there is none. -/
def bounds : Option Quantifier → Bounds
  | none => .once
  | some q => ⟨q.min, q.max.getD (q.min + unboundedExtra), q.max.isNone⟩

def text (q : Option Quantifier) : List Char := q.elim [] chars

def repeated (r : Regex) : Option Quantifier → Regex
  | none => r
  | some q => .repetition r q.min q.max

end Quantifier

/-! ### Pieces, branches and groups -/

mutual

inductive Atom
  | literal (c : Char) (h : c ∉ reserved)
  | dot
  | escape (e : Escape)
  | outside (s : Shorthand)
  | class (k : Class)
  | group (capturing : Bool) (choice : Choice)

inductive Branch
  | nil
  | cons (atom : Atom) (quantifier : Option Quantifier) (rest : Branch)

inductive Choice
  | one (branch : Branch)
  | more (branch : Branch) (rest : Choice)

end

mutual

def Atom.chars : Atom → List Char
  | .literal c _ => [c]
  | .dot => ['.']
  | .escape e => ['\\', e.char]
  | .outside s => ['\\', s.capital]
  | .class k => '[' :: (k.body ++ [']'])
  | .group capturing choice => '(' :: ((if capturing then [] else ['?', ':']) ++ (choice.chars ++ [')']))

def Branch.chars : Branch → List Char
  | .nil => []
  | .cons atom quantifier rest => atom.chars ++ Quantifier.text quantifier ++ rest.chars

def Choice.chars : Choice → List Char
  | .one branch => branch.chars
  | .more branch rest => branch.chars ++ '|' :: rest.chars

end

mutual

/-- What is read from an atom. -/
def Atom.read : Atom → Pattern.Atom
  | .literal c _ => .literal c
  | .dot => .class wordChars
  | .escape e => escapeAtom e.char
  | .outside s => escapeAtom s.capital
  | .class k => .class k.members
  | .group _ choice => .group choice.read

def Branch.read : Branch → List (Piece Pattern.Atom)
  | .nil => []
  | .cons atom quantifier rest => (Quantifier.bounds quantifier).piece atom.read :: rest.read

def Choice.read : Choice → List (List (Piece Pattern.Atom))
  | .one branch => [branch.read]
  | .more branch rest => branch.read :: rest.read

end

mutual

/-- The expression that an atom writes. -/
def Atom.expression : Atom → Regex
  | .literal c _ => .set (.one c)
  | .dot => .set (.complement (.one '\n'))
  | .escape e => .set e.set
  | .outside s => .set (.complement s.set)
  | .class k => .set k.set
  | .group _ choice => choice.expression

def Branch.expression : Branch → Regex
  | .nil => .empty
  | .cons atom quantifier rest => .concat (Quantifier.repeated atom.expression quantifier) rest.expression

def Choice.expression : Choice → Regex
  | .one branch => branch.expression
  | .more branch rest => .alt branch.expression rest.expression

end

/-- An alternative of a whole pattern, which may be anchored at its start and at its end. -/
structure Alternative where
  start : Bool
  branch : Branch
  stop : Bool

namespace Alternative

def chars (a : Alternative) : List Char :=
  (if a.start then ['^'] else []) ++ a.branch.chars ++ (if a.stop then ['$'] else [])

def expression (a : Alternative) : Regex :=
  .concat (if a.start then .assertion .startText else .empty)
    (.concat a.branch.expression (if a.stop then .assertion .endText else .empty))

end Alternative

end Written

/-- A whole pattern, with its alternatives. -/
structure Written where
  first : Written.Alternative
  others : List Written.Alternative

namespace Written

def alternatives (w : Written) : List Alternative := w.first :: w.others

def chars (w : Written) : List Char := w.first.chars ++ w.others.flatMap fun a => '|' :: a.chars

def text (w : Written) : String := String.ofList w.chars

def read (w : Written) : List (List (Piece Pattern.Atom)) := w.alternatives.map fun a => a.branch.read

end Written

end MockApi.Generation.Pattern
