import MockApi.Text.Character

/-!
# Parts of a text

Trimming, splitting and joining, on lists of characters.
-/

namespace MockApi.Text

def trimChars (s : List Char) : List Char :=
  ((s.dropWhile isBlank).reverse.dropWhile isBlank).reverse

def trim (s : String) : String := String.ofList (trimChars s.toList)

def splitOn (separator : Char) : List Char → List (List Char)
  | [] => [[]]
  | c :: rest =>
    if c = separator then [] :: splitOn separator rest
    else match splitOn separator rest with
      | piece :: pieces => (c :: piece) :: pieces
      | [] => [[c]]

def splitOnce (separator : Char) : List Char → Option (List Char × List Char)
  | [] => none
  | c :: rest =>
    if c = separator then some ([], rest)
    else (splitOnce separator rest).map fun (before, after) => (c :: before, after)

def joinWith (separator : String) : List String → String
  | [] => ""
  | [piece] => piece
  | piece :: pieces => piece ++ separator ++ joinWith separator pieces

def dropStart (start : List Char) (s : List Char) : Option (List Char) :=
  match start, s with
  | [], s => some s
  | _ :: _, [] => none
  | a :: start, b :: s => if a = b then dropStart start s else none

def dropFinish (finish : List Char) (s : List Char) : Option (List Char) :=
  (dropStart finish.reverse s.reverse).map List.reverse

def startsWith (s start : String) : Bool := (dropStart start.toList s.toList).isSome

def endsWith (s finish : String) : Bool := (dropFinish finish.toList s.toList).isSome

def contains (part : List Char) : List Char → Bool
  | [] => part.isEmpty
  | c :: rest => (dropStart part (c :: rest)).isSome || contains part rest

/-- A decimal number of plain digits, with an optional plus sign, below a limit. -/
def readNat? (limit : Nat) (s : List Char) : Option Nat :=
  let digits := match s with
    | '+' :: rest => rest
    | rest => rest
  if digits.isEmpty || !digits.all Char.isDigit then none
  else
    let n := digits.foldl (fun n c => n * 10 + (c.toNat - 48)) 0
    if n < limit then some n else none

def padEnd (width : Nat) (s : String) : String :=
  s ++ String.ofList (List.replicate (width - s.length) ' ')

end MockApi.Text
