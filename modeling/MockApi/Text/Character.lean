import MockApi.Text.Cases
import MockApi.Text.Folding
import MockApi.Text.Letters

/-!
# Character classes and case

Classes of characters beyond ASCII, and the lower-case and upper-case forms of characters and
texts. A form may be longer than the character.
-/

namespace MockApi.Text

def isAlphabetic (c : Char) : Bool := alphabeticRuns.has c.toNat

def isNumeric (c : Char) : Bool := numberRuns.has c.toNat

def isAlphanumeric (c : Char) : Bool := isAlphabetic c || isNumeric c

def isUppercase (c : Char) : Bool := uppercaseRuns.has c.toNat

def isLowercase (c : Char) : Bool := lowercaseRuns.has c.toNat

def isBlank (c : Char) : Bool := blankRuns.has c.toNat

/-- The lower-case form of a character. Only the dotted capital I has two characters. -/
def lowerChar (c : Char) : List Char :=
  if c.toNat = 0x130 then ['i', Char.ofNat 0x307] else [Char.ofNat (mapBy lowerShifts c.toNat)]

def upperChar (c : Char) : List Char :=
  match longUppers.lookup c.toNat with
  | some codes => codes.map Char.ofNat
  | none => [Char.ofNat (mapBy upperShifts c.toNat)]

/-- Whether a letter follows, past anything that is neither upper nor lower case but may stand inside
a word. -/
def letterFollows : List Char → Bool
  | [] => false
  | c :: rest =>
    if isUppercase c || isLowercase c then true
    else if caseIgnorable c then letterFollows rest
    else false
where
  caseIgnorable (c : Char) : Bool :=
    markRuns.has c.toNat || c.toNat ∈ [0x27, 0x2E, 0x3A, 0x5E, 0x60, 0xA8, 0xAD, 0xAF, 0xB4, 0xB7,
      0xB8, 0x2019]

/-- A capital sigma takes its final form at the end of a word. -/
def lowerFrom (before : List Char) : List Char → List Char
  | [] => []
  | c :: rest =>
    (if c.toNat = 0x3A3 then
      if letterFollows before && !letterFollows rest then [Char.ofNat 0x3C2] else [Char.ofNat 0x3C3]
    else lowerChar c) ++ lowerFrom (c :: before) rest

def lower (s : String) : String := String.ofList (lowerFrom [] s.toList)

def upper (s : String) : String := String.ofList (s.toList.flatMap upperChar)

def lowerAscii (s : String) : String := String.ofList (s.toList.map Char.toLower)

def upperAscii (s : String) : String := String.ofList (s.toList.map Char.toUpper)

/-- Characters that are the same when case does not count: all with the same folded form. -/
def caseVariants (c : Char) : List Char :=
  let folded := mapBy foldShifts c.toNat
  (folded :: mappedTo foldShifts folded).map Char.ofNat

end MockApi.Text
