import MockApi.Random

/-!
# Filler text

Texts of an exact length made of Latin words with single spaces between them. A text that would end with
a space ends with an `s` instead.
-/

namespace MockApi.Generation

def fillerWords : List String := [
  "lorem", "ipsum", "dolor", "sit", "amet", "consectetur", "adipiscing", "elit", "sed", "do",
  "eiusmod", "tempor", "incididunt", "ut", "labore", "et", "dolore", "magna", "aliqua", "enim", "ad",
  "minim", "veniam", "quis", "nostrud", "exercitation", "ullamco", "laboris", "nisi", "aliquip",
  "ex", "ea", "commodo"]

variable {σ : Type} [Source σ]

/-- Words behind the text so far, last character first, until there is no room for more characters.
Every word takes room, so the room bounds the number of words. -/
def fill : Nat → Nat → List Char → Draw σ (List Char)
  | _, 0, soFar => pure soFar
  | 0, _ + 1, soFar => pure soFar
  | fuel + 1, room + 1, soFar => do
    let word := (fillerWords.getD (← Draw.index fillerWords.length) "").toList
    let gap := if soFar.isEmpty then [] else [' ']
    fill fuel (room + 1 - (gap.length + word.length)) (word.reverse ++ gap ++ soFar)

def closeEnd : List Char → List Char
  | ' ' :: rest => 's' :: rest
  | s => s

/-- Filler text of exactly `length` characters. -/
def fillerText (length : Nat) : Draw σ String := do
  let soFar ← fill length length []
  return String.ofList (closeEnd (soFar.drop (soFar.length - length))).reverse

end MockApi.Generation
