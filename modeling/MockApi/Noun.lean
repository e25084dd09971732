import MockApi.Text.Parts

/-!
# Nouns and their plurals

A resource is called by a noun, and its collection by the plural: from a table of irregular nouns
first, from the ending of the word otherwise. Both keep the capitals of the word. `slug` turns a
noun of any spelling into lower-case words joined by hyphens, the last one in the plural.
-/

namespace MockApi.Noun

open Text

def irregularNouns : List (String × String) := [
  ("person", "people"), ("man", "men"), ("woman", "women"), ("child", "children"),
  ("tooth", "teeth"), ("foot", "feet"), ("mouse", "mice"), ("goose", "geese"), ("ox", "oxen"),
  ("datum", "data"), ("index", "indices"), ("matrix", "matrices"), ("vertex", "vertices"),
  ("criterion", "criteria"), ("phenomenon", "phenomena"), ("analysis", "analyses"),
  ("crisis", "crises"), ("thesis", "theses"), ("cactus", "cacti"), ("focus", "foci"),
  ("fungus", "fungi"), ("radius", "radii"), ("quiz", "quizzes"), ("sheep", "sheep"),
  ("fish", "fish"), ("deer", "deer"), ("series", "series"), ("species", "species"),
  ("news", "news"), ("equipment", "equipment"), ("information", "information")]

/-- Words in `f` and `fe` that only take an `s`. -/
def plainF : List String :=
  ["roof", "chief", "belief", "chef", "proof", "reef", "gulf", "brief", "safe", "cafe"]

def oWithEs : List String := ["hero", "potato", "tomato", "echo", "veto", "torpedo", "embargo"]

/-! ### Capitals -/

def isShouting (word : String) : Bool := word.any isAlphabetic && !word.any isLowercase

/-- Whether an ending is written in capitals; a single letter is too short to tell. -/
def shoutsEnding (word : String) : Bool := isShouting word && decide (1 < word.length)

def matchEnding (word ending : String) : String :=
  if shoutsEnding word then upper ending else ending

/-- The plural with the capitals of the word: all, the first, or none. -/
def matchCapitals (word plural : String) : String :=
  if shoutsEnding word then upper plural
  else match word.toList, plural.toList with
    | first :: _, p :: rest =>
      if isUppercase first then String.ofList (upperChar p ++ rest) else plural
    | _, _ => plural

/-! ### Plurals -/

def irregularPlural (word : String) : Option String :=
  let w := lower word
  (irregularNouns.find? fun entry => entry.1 == w || entry.2 == w).map
    fun entry => matchCapitals word entry.2

def isVowel (c : Char) : Bool := c ∈ ['a', 'e', 'i', 'o', 'u']

def dropLast (count : Nat) (word : String) : String :=
  String.ofList (word.toList.take (word.length - count))

/-- How many characters an ending replaces, and the ending, for a word in lower case. -/
def endingOf (w : String) : Nat × String :=
  let backward := w.toList.reverse
  match backward with
  | [] => (0, "")
  | last :: before =>
    let previous := before.head?
    if last = 'y' ∧ previous.any (fun c => !isVowel c) then (1, "ies")
    else if last ∈ ['s', 'x', 'z'] ∨ (last = 'h' ∧ previous.any (· ∈ ['c', 's'])) then (0, "es")
    else if w ∉ plainF ∧ last = 'e' ∧ previous = some 'f' ∧ (before.drop 1).head? ≠ some 'f' then
      (2, "ves")
    else if w ∉ plainF ∧ last = 'f' ∧ previous ≠ some 'f' then (1, "ves")
    else if w ∈ oWithEs then (0, "es")
    else (0, "s")

def regularPlural (word : String) : String :=
  let (count, ending) := endingOf (lower word)
  if (lower word).isEmpty then "" else dropLast count word ++ matchEnding word ending

def pluralize (word : String) : String := (irregularPlural word).getD (regularPlural word)

/-! ### Slugs -/

structure Splitting where
  words : List (List Char)
  current : List Char
  afterSmall : Bool

def Splitting.finish (s : Splitting) : Splitting :=
  if s.current.isEmpty then s else ⟨s.words ++ [s.current], [], s.afterSmall⟩

/-- A capital after a small letter or a digit starts a word, and what is neither a letter nor a number
ends one. -/
def Splitting.step (s : Splitting) (c : Char) : Splitting :=
  if !isAlphanumeric c then { s.finish with afterSmall := false }
  else
    let s := if isUppercase c && s.afterSmall then s.finish else s
    ⟨s.words, s.current ++ lowerChar c, isLowercase c || isNumeric c⟩

def words (noun : String) : List String :=
  ((noun.toList.foldl Splitting.step ⟨[], [], false⟩).finish.words).map String.ofList

def pluralizeLast : List String → List String
  | [] => []
  | [word] => [pluralize word]
  | word :: rest => word :: pluralizeLast rest

def slug (noun : String) : String := joinWith "-" (pluralizeLast (words noun))

end MockApi.Noun
