import MockApi.Text.Parts
import MockApi.Toml.Number

/-!
# Reading TOML

A document is a list of lines: entries, and headers that say which table the entries below belong to. A
table is built entry by entry; what is defined twice is refused. Dates and times are refused.
-/

namespace MockApi.Toml

def isSpace (c : Char) : Bool := c == ' ' || c == '\t'

def skipSpaces (s : List Char) : List Char := s.dropWhile isSpace

def isPlain (c : Char) : Bool := c == '\t' || (decide (32 ≤ c.toNat) && c.toNat != 127)

def skipComment : List Char → Option (List Char)
  | '#' :: rest =>
    let comment := rest.takeWhile (· ≠ '\n')
    if comment.all isPlain then some (rest.drop comment.length) else none
  | s => some s

def skipLines : Nat → List Char → Option (List Char)
  | 0, s => some s
  | fuel + 1, s => do
    match ← skipComment (skipSpaces s) with
    | '\n' :: rest => skipLines fuel rest
    | rest => some rest

/-! ### Texts -/

def escaped? (c : Char) : Option Char :=
  match c with
  | 'b' => some '\x08'
  | 't' => some '\t'
  | 'n' => some '\n'
  | 'f' => some '\x0c'
  | 'r' => some '\r'
  | '"' => some '"'
  | '\\' => some '\\'
  | _ => none

def readCode (count : Nat) (s : List Char) : Option (Char × List Char) := do
  let digits := s.take count
  if digits.length < count || digits.contains '_' then none
  let n ← natIn? 16 digits
  if n.isValidChar then some (Char.ofNat n, s.drop count) else none

def readEscape : List Char → Option (Char × List Char)
  | 'u' :: rest => readCode 4 rest
  | 'U' :: rest => readCode 8 rest
  | c :: rest => (escaped? c).map (·, rest)
  | [] => none

def readLine (quote : Char) : Nat → List Char → Option (List Char × List Char)
  | 0, _ => none
  | fuel + 1, s =>
    match s with
    | [] => none
    | c :: rest =>
      if c = quote then some ([], rest)
      else if c = '\\' ∧ quote = '"' then do
        let (c, rest) ← readEscape rest
        let (chars, after) ← readLine quote fuel rest
        return (c :: chars, after)
      else if isPlain c then (readLine quote fuel rest).map fun (chars, after) => (c :: chars, after)
      else none

/-- A text of several lines up to three quotes, of which up to two more may stand before them. -/
def readLines (quote : Char) : Nat → List Char → Option (List Char × List Char)
  | 0, _ => none
  | fuel + 1, s =>
    match s with
    | [] => none
    | c :: rest =>
      let quotes := s.takeWhile (· = quote)
      if 3 ≤ quotes.length then
        if 5 < quotes.length then none
        else some (List.replicate (quotes.length - 3) quote, s.drop quotes.length)
      else if c = '\\' ∧ quote = '"' then
        match skipSpaces rest with
        | '\n' :: lines => readLines quote fuel (lines.dropWhile fun c => isSpace c || c == '\n')
        | _ => do
          let (c, rest) ← readEscape rest
          let (chars, after) ← readLines quote fuel rest
          return (c :: chars, after)
      else if isPlain c ∨ c = '\n' then
        (readLines quote fuel rest).map fun (chars, after) => (c :: chars, after)
      else none

def readText (quote : Char) (s : List Char) : Option (String × List Char) :=
  let asString (r : List Char × List Char) : String × List Char := (String.ofList r.1, r.2)
  match Text.dropStart [quote, quote, quote] s with
  | some ('\n' :: rest) => (readLines quote (rest.length + 1) rest).map asString
  | some rest => (readLines quote (rest.length + 1) rest).map asString
  | none => (readLine quote s.length (s.drop 1)).map asString

/-! ### Keys -/

def isKeyChar (c : Char) : Bool :=
  c.isDigit || ('a' ≤ c && c ≤ 'z') || ('A' ≤ c && c ≤ 'Z') || c == '_' || c == '-'

def readKey (s : List Char) : Option (String × List Char) :=
  match s with
  | '"' :: _ => (readLine '"' s.length (s.drop 1)).map fun (chars, rest) => (String.ofList chars, rest)
  | '\'' :: _ => (readLine '\'' s.length (s.drop 1)).map fun (chars, rest) => (String.ofList chars, rest)
  | _ =>
    let key := s.takeWhile isKeyChar
    if key.isEmpty then none else some (String.ofList key, s.drop key.length)

def readPath : Nat → List Char → Option (List String × List Char)
  | 0, _ => none
  | fuel + 1, s => do
    let (key, rest) ← readKey (skipSpaces s)
    match skipSpaces rest with
    | '.' :: rest => (readPath fuel rest).map fun (path, rest) => (key :: path, rest)
    | rest => some ([key], rest)

/-! ### Tables under construction -/

/-- How a table came to be: by a header of its own, by a header of a part of it, by a key with points, or
between braces, which closes it. -/
inductive Origin
  | header
  | implied
  | dotted
  | closed
deriving DecidableEq

inductive Item
  | value (x : Toml)
  | table (origin : Origin) (items : List (String × Item))
  /-- A list of tables; the last comes first and is the one that grows. -/
  | tables (last : List (String × Item)) (before : List (List (String × Item)))

abbrev Items := List (String × Item)

def findItem (items : Items) (key : String) : Option Item := (items.find? (·.1 = key)).map (·.2)

def putItem (items : Items) (key : String) (item : Item) : Items :=
  if items.any (·.1 = key) then items.map fun entry => if entry.1 = key then (key, item) else entry
  else items ++ [(key, item)]

/-- A change to the table at the end of a path, made in the table at its start. Tables on the way are
made where there are none; those that are there must not be closed, and a path of a key with points goes
only through tables that such a key or a part of a header made. -/
def alterAt (dotted : Bool) (f : Origin → Items → Option Items) (origin : Origin) :
    List String → Items → Option Items
  | [], items => f origin items
  | key :: path, items => do
    let made : Origin := if dotted then .dotted else .implied
    let item ← match findItem items key with
      | none => (alterAt dotted f made path []).map (Item.table made)
      | some (.value _) => none
      | some (.table inner parts) =>
        if inner = .closed ∨ (dotted ∧ inner = .header) then none
        else (alterAt dotted f inner path parts).map (Item.table inner)
      | some (.tables last before) =>
        if dotted then none
        else (alterAt dotted f .header path last).map fun last => Item.tables last before
    return putItem items key item

/-- An item under a new key. Keys without points do not belong to tables made by keys with points, and
the other way round. -/
def addItem (dotted : Bool) (key : String) (item : Item) (origin : Origin) (items : Items) :
    Option Items :=
  if dotted ≠ (origin = .dotted : Bool) ∨ (findItem items key).isSome then none
  else some (items ++ [(key, item)])

def addAt (path : List String) (item : Item) (origin : Origin) (items : Items) : Option Items :=
  match path.getLast? with
  | none => none
  | some key =>
    let before := path.dropLast
    alterAt true (addItem (!before.isEmpty) key item) origin before items

def openTable (path : List String) (items : Items) : Option Items :=
  match path.getLast? with
  | none => none
  | some key =>
    alterAt false (fun _ items => match findItem items key with
      | none => some (items ++ [(key, .table .header [])])
      | some (.table .implied parts) => some (putItem items key (.table .header parts))
      | _ => none) .header path.dropLast items

def openElement (path : List String) (items : Items) : Option Items :=
  match path.getLast? with
  | none => none
  | some key =>
    alterAt false (fun _ items => match findItem items key with
      | none => some (items ++ [(key, .tables [] [])])
      | some (.tables last before) => some (putItem items key (.tables [] (last :: before)))
      | _ => none) .header path.dropLast items

mutual

def Item.toToml : Item → Toml
  | .value x => x
  | .table _ items => .table (tableToToml items)
  | .tables last before => .array ((Toml.table (tableToToml last) :: tablesToToml before).reverse)

def tableToToml : List (String × Item) → List (String × Toml)
  | [] => []
  | (key, item) :: rest => (key, item.toToml) :: tableToToml rest

def tablesToToml : List (List (String × Item)) → List Toml
  | [] => []
  | items :: rest => .table (tableToToml items) :: tablesToToml rest

end

/-! ### Values -/

def isBareChar (c : Char) : Bool :=
  c.isAlphanum || c == '_' || c == '+' || c == '-' || c == '.' || c == ':'

def readBare (s : List Char) : Option (Toml × List Char) :=
  let word := s.takeWhile isBareChar
  let value : Option Toml :=
    if word = "true".toList then some (.bool true)
    else if word = "false".toList then some (.bool false)
    else readNumber? word
  value.map (·, s.drop word.length)

mutual

def readValue : Nat → List Char → Option (Toml × List Char)
  | 0, _ => none
  | fuel + 1, s =>
    match s with
    | '"' :: _ => (readText '"' s).map fun (s, rest) => (.text s, rest)
    | '\'' :: _ => (readText '\'' s).map fun (s, rest) => (.text s, rest)
    | '[' :: rest => readElements fuel rest []
    | '\x7b' :: rest =>
      match skipSpaces rest with
      | '\x7d' :: rest => some (.table [], rest)
      | rest => readEntries fuel rest []
    | _ => readBare s

def readElements : Nat → List Char → List Toml → Option (Toml × List Char)
  | 0, _, _ => none
  | fuel + 1, s, done => do
    match ← skipLines s.length s with
    | ']' :: rest => some (.array done.reverse, rest)
    | s => do
      let (value, rest) ← readValue fuel s
      match ← skipLines rest.length rest with
      | ',' :: rest => readElements fuel rest (value :: done)
      | ']' :: rest => some (.array (value :: done).reverse, rest)
      | _ => none

def readEntries : Nat → List Char → Items → Option (Toml × List Char)
  | 0, _, _ => none
  | fuel + 1, s, done => do
    let (path, value, rest) ← readEntry fuel s
    let done ← addAt path (.value value) .header done
    match skipSpaces rest with
    | ',' :: rest => readEntries fuel rest done
    | '\x7d' :: rest => some (.table (tableToToml done), rest)
    | _ => none

def readEntry : Nat → List Char → Option (List String × Toml × List Char)
  | 0, _ => none
  | fuel + 1, s => do
    let (path, rest) ← readPath s.length s
    match rest with
    | '=' :: rest => do
      let (value, rest) ← readValue fuel (skipSpaces rest)
      return (path, value, rest)
    | _ => none

end

/-! ### Documents -/

/-- A document up to some line: its items, and the table that entries belong to. -/
structure Progress where
  items : Items
  current : List String

def readHeader (p : Progress) (s : List Char) : Option (Progress × List Char) :=
  match s with
  | '[' :: '[' :: rest => do
    match ← readPath rest.length rest with
    | (path, ']' :: ']' :: rest) => return (⟨← openElement path p.items, path⟩, rest)
    | _ => none
  | '[' :: rest => do
    match ← readPath rest.length rest with
    | (path, ']' :: rest) => return (⟨← openTable path p.items, path⟩, rest)
    | _ => none
  | _ => none

def placeEntry (p : Progress) (path : List String) (value : Toml) : Option Progress :=
  (alterAt false (addAt path (.value value)) .header p.current p.items).map (⟨·, p.current⟩)

def readStatement (p : Progress) (s : List Char) : Option (Progress × List Char) :=
  match s with
  | '[' :: _ => readHeader p s
  | _ => do
    let (path, value, rest) ← readEntry (4 * s.length + 8) s
    return (← placeEntry p path value, rest)

def readStatements : Nat → Progress → List Char → Option Progress
  | 0, _, _ => none
  | fuel + 1, p, s => do
    match ← skipLines s.length s with
    | [] => some p
    | s => do
      let (p, rest) ← readStatement p s
      match ← skipComment (skipSpaces rest) with
      | [] => some p
      | '\n' :: rest => readStatements fuel p rest
      | _ => none

def unifyLineEnds : List Char → List Char
  | [] => []
  | '\r' :: '\n' :: rest => '\n' :: unifyLineEnds rest
  | c :: rest => c :: unifyLineEnds rest

def read (s : String) : Option Toml :=
  let chars := unifyLineEnds s.toList
  (readStatements (chars.length + 1) ⟨[], []⟩ chars).map fun p => .table (tableToToml p.items)

end MockApi.Toml
