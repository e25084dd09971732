import MockApi.Power
import MockApi.Text.Parts

/-!
# Patterns to generate from

The part of regular expressions from which texts are generated: characters, classes, groups and
repetitions. Anchors are left out, and any text is read somehow: what is not understood stands for
itself.
-/

namespace MockApi.Generation.Pattern

/-- An atom with the bounds of its repetition. An unbounded piece may also be repeated more often. -/
structure Piece (α : Type) where
  atom : α
  min : Nat
  max : Nat
  unbounded : Bool
deriving DecidableEq

/-- What a repetition repeats: a character, one of a class, or one alternative of a group. -/
inductive Atom
  | literal (c : Char)
  | class (members : List Char)
  | group (alternatives : List (List (Piece Atom)))

structure Bounds where
  min : Nat
  max : Nat
  unbounded : Bool
deriving DecidableEq

def unboundedExtra : Nat := 4

def repetitionLimit : Nat := 1024

def Bounds.once : Bounds := ⟨1, 1, false⟩

/-! ### Characters and classes -/

def charRange (first last : Char) : List Char :=
  (List.range (last.toNat + 1 - first.toNat)).filterMap fun i =>
    let n := first.toNat + i
    if h : n.isValidChar then some (Char.ofNatAux n h) else none

def smallLetters : List Char := charRange 'a' 'z'

def digits : List Char := charRange '0' '9'

def wordChars : List Char := smallLetters ++ charRange 'A' 'Z' ++ digits ++ ['_']

/-- What a backslash and a character stand for; a condition without width is an empty group. -/
def escapeAtom (c : Char) : Atom :=
  match c with
  | 'd' => .class digits
  | 'D' => .class smallLetters
  | 'w' => .class wordChars
  | 'W' => .class ['-', '!', '@', '#', '%', '&', '*']
  | 's' => .class [' ']
  | 'S' => .class smallLetters
  | 'n' => .literal '\n'
  | 't' => .literal '\t'
  | 'b' | 'B' | 'A' | 'z' | 'Z' => .group [[]]
  | c => .literal c

def escapeMembers (c : Char) : List Char :=
  match escapeAtom c with
  | .class members => members
  | .literal c => [c]
  | .group _ => []

/-- The members of a class up to its closing bracket, which stands for itself in the first place. -/
def classMembers (first : Bool) : List Char → List Char × List Char
  | [] => ([], [])
  | '\\' :: [] => (['\\'], [])
  | '\\' :: c :: rest =>
    let (members, rest) := classMembers false rest
    (escapeMembers c ++ members, rest)
  | c :: '-' :: last :: rest =>
    if c = ']' ∧ !first then ([], '-' :: last :: rest)
    else if last = ']' then
      let (members, rest) := classMembers false ('-' :: last :: rest)
      (c :: members, rest)
    else
      let (members, rest) := classMembers false rest
      ((if c ≤ last then charRange c last else []) ++ members, rest)
  | c :: rest =>
    if c = ']' ∧ !first then ([], rest)
    else
      let (members, rest) := classMembers false rest
      (c :: members, rest)

/-- A class behind its opening bracket. What a negated class leaves of the printable ASCII characters
is taken. -/
def parseClass (s : List Char) : List Char × List Char :=
  match s with
  | '^' :: rest =>
    let (members, rest) := classMembers true rest
    ((charRange '!' '~').filter (!members.contains ·), rest)
  | s => classMembers true s

/-! ### Repetitions -/

def readCount (s : List Char) : Option Nat :=
  (Text.readNat? (2 ^ 32) (Text.trimChars s)).map (Nat.min · repetitionLimit)

def readBounds (s : List Char) : Option Bounds :=
  match Text.splitOnce ',' s with
  | none => (readCount s).map fun n => ⟨n, n, false⟩
  | some (lo, hi) => do
    let lo ← readCount lo
    if (Text.trimChars hi).isEmpty then return ⟨lo, lo + unboundedExtra, true⟩
    let hi ← readCount hi
    return ⟨lo, Nat.max hi lo, false⟩

def parseBounds (s : List Char) : Bounds × List Char :=
  match s with
  | '?' :: rest => (⟨0, 1, false⟩, rest)
  | '*' :: rest => (⟨0, unboundedExtra, true⟩, rest)
  | '+' :: rest => (⟨1, 1 + unboundedExtra, true⟩, rest)
  | '\x7b' :: rest =>
    match readBounds (rest.takeWhile (· ≠ '\x7d')) with
    | some bounds => (bounds, (rest.dropWhile (· ≠ '\x7d')).drop 1)
    | none => (.once, s)
  | s => (.once, s)

def parseQuantifier (s : List Char) : Bounds × List Char :=
  let (bounds, rest) := parseBounds s
  if bounds = .once then (bounds, rest)
  else match rest with
    | '?' :: rest | '+' :: rest => (bounds, rest)
    | rest => (bounds, rest)

/-! ### The whole pattern -/

/-- Alternatives under construction, the last one first, each with its last piece first. -/
structure Branches where
  finished : List (List (Piece Atom))
  current : List (Piece Atom)

def Branches.toList (b : Branches) : List (List (Piece Atom)) :=
  (b.current.reverse :: b.finished).reverse

structure Progress where
  outer : List Branches
  here : Branches

def Progress.push (p : Progress) (atom : Atom) (s : List Char) : Progress × List Char :=
  let (b, rest) := parseQuantifier s
  let piece : Piece Atom := ⟨atom, b.min, b.max, b.unbounded⟩
  ({ p with here := { p.here with current := piece :: p.here.current } }, rest)

def Progress.close (p : Progress) (s : List Char) : Progress × List Char :=
  match p.outer with
  | [] => (p, s)
  | around :: outer => Progress.push ⟨outer, around⟩ (.group p.here.toList) s

def dropGroupMark (s : List Char) : List Char :=
  match s with
  | '?' :: ':' :: rest => rest
  | '?' :: rest => rest
  | s => s

def Progress.step (p : Progress) (c : Char) (rest : List Char) : Progress × List Char :=
  match c with
  | ')' => if p.outer.isEmpty then p.push (.literal ')') rest else p.close rest
  | '|' => ({ p with here := ⟨p.here.current.reverse :: p.here.finished, []⟩ }, rest)
  | '^' | '$' => (p, rest)
  | '\\' =>
    match rest with
    | escaped :: rest => p.push (escapeAtom escaped) rest
    | [] => p.push (.literal '\\') []
  | '[' =>
    let (members, rest) := parseClass rest
    p.push (.class members) rest
  | '(' => (⟨p.here :: p.outer, ⟨[], []⟩⟩, dropGroupMark rest)
  | '.' => p.push (.class wordChars) rest
  | c => p.push (.literal c) rest

/-- All steps. Each takes at least one character, so `fuel` may be their number. -/
def Progress.run : Nat → Progress → List Char → Progress
  | fuel + 1, p, c :: rest =>
    let (p, rest) := p.step c rest
    Progress.run fuel p rest
  | _, p, _ => p

def Progress.finish (p : Progress) : List (List (Piece Atom)) :=
  let rec go : List Branches → Branches → List (List (Piece Atom))
    | [], here => here.toList
    | around :: outer, here =>
      go outer { around with current := ⟨.group here.toList, 1, 1, false⟩ :: around.current }
  go p.outer p.here

def parse (pattern : String) : List (List (Piece Atom)) :=
  (Progress.run pattern.length ⟨[], ⟨[], []⟩⟩ pattern.toList).finish

end MockApi.Generation.Pattern
