import MockApi.Yaml.Scalar

/-!
# Reading YAML

A document is one value. Sequences and mappings are marked by indentation, or written between brackets.
A part of a document is read from a place, together with the indentation of what it belongs to: what is
not indented more belongs to something further out. Anchors, tags and keys that are not words are refused.
-/

namespace MockApi.Yaml

abbrev Read := Option (Yaml × Cursor)

def Cursor.skipSpaces (c : Cursor) : Cursor := c.moveTo (c.rest.dropWhile isSpace)

def Cursor.atColon (c : Cursor) : Bool := isIndicator ':' c.skipSpaces.rest

def Cursor.atDash (c : Cursor) : Bool := isIndicator '-' c.rest

def isReserved (c : Char) : Bool := ",[]\x7b\x7d#&*!|>'\"%@\x60".toList.contains c

def startsPlain (flow : Bool) : List Char → Bool
  | [] => false
  | c :: rest =>
    !(isSpace c || c == '\n' || isReserved c) &&
      !("-?:".toList.contains c && endsWord rest) && !(flow && (c == ':' || c == '?'))

def readWord (flow : Bool) (indent : Int) (c : Cursor) : Option Scalar :=
  match c.rest with
  | '"' :: _ => readQuoted '"' c
  | '\'' :: _ => readQuoted '\'' c
  | rest => if startsPlain flow rest then readPlain flow indent c else none

/-! ### Between brackets -/

def Cursor.next (c : Cursor) : Cursor := (c.gap true true).1

def Cursor.pastFlowColon? (c : Cursor) : Option Cursor :=
  match c.gap true true with
  | (⟨':' :: rest, column⟩, false) => some ⟨rest, column + 1⟩
  | _ => none

mutual

def flowValue : Nat → Cursor → Read
  | 0, _ => none
  | fuel + 1, c =>
    match c.rest with
    | '[' :: _ => flowElements fuel (c.advance 1).next []
    | '\x7b' :: _ => flowEntries fuel (c.advance 1).next []
    | _ => (readWord true 0 c).map fun s => (s.value, s.finish)

def flowAfterColon : Nat → Cursor → Read
  | 0, _ => none
  | fuel + 1, c =>
    let start := c.next
    match start.rest with
    | ',' :: _ | ']' :: _ | '\x7d' :: _ => some (blank, start)
    | _ => flowValue fuel start

def flowEntry : Nat → Cursor → Option ((Yaml × Option Yaml) × Cursor)
  | 0, _ => none
  | fuel + 1, c => do
    let s ← readWord true 0 c
    match s.finish.pastFlowColon? with
    | none => return ((s.value, none), s.finish)
    | some behind =>
      if s.severalLines then none
      let (value, finish) ← flowAfterColon fuel behind
      return ((s.value, some value), finish)

def flowElement : Nat → Cursor → Read
  | 0, _ => none
  | fuel + 1, c =>
    match c.rest with
    | '[' :: _ | '\x7b' :: _ => do
      let (value, finish) ← flowValue fuel c
      if finish.pastFlowColon?.isSome then none
      return (value, finish)
    | _ => do
      match ← flowEntry fuel c with
      | ((word, none), finish) => return (word, finish)
      | ((key, some value), finish) => return (.mapping [(← key.text?, value)], finish)

def flowElements : Nat → Cursor → List Yaml → Read
  | 0, _, _ => none
  | fuel + 1, c, done =>
    match c.rest with
    | ']' :: _ => some (.sequence done.reverse, c.advance 1)
    | _ => do
      let (value, finish) ← flowElement fuel c
      let behind := finish.next
      match behind.rest with
      | ',' :: _ => flowElements fuel (behind.advance 1).next (value :: done)
      | ']' :: _ => some (.sequence (value :: done).reverse, behind.advance 1)
      | _ => none

def flowEntries : Nat → Cursor → List (String × Yaml) → Read
  | 0, _, _ => none
  | fuel + 1, c, done =>
    match c.rest with
    | '\x7d' :: _ => some (.mapping done.reverse, c.advance 1)
    | _ => do
      let ((key, value), finish) ← flowEntry fuel c
      let done := (← key.text?, value.getD blank) :: done
      let behind := finish.next
      match behind.rest with
      | ',' :: _ => flowEntries fuel (behind.advance 1).next done
      | '\x7d' :: _ => some (.mapping done.reverse, behind.advance 1)
      | _ => none

end

/-! ### By indentation -/

mutual

/-- A value that starts at a token and belongs to something at `indent`. A sequence or mapping that is
marked by indentation may start here only if `fresh`. -/
def blockValue : Nat → Int → Bool → Cursor → Read
  | 0, _, _, _ => none
  | fuel + 1, indent, fresh, c =>
    if c.atDash then if fresh then blockElements fuel c.column c [] else none
    else match c.rest with
      | '|' :: _ => (readBlock false indent c).map fun s => (s.value, s.finish)
      | '>' :: _ => (readBlock true indent c).map fun s => (s.value, s.finish)
      | '[' :: _ | '\x7b' :: _ => do
        let (value, finish) ← flowValue fuel c
        if finish.atColon then none
        return (value, finish)
      | _ => do
        let s ← readWord false indent c
        if !s.finish.atColon then return (s.value, s.finish)
        if s.severalLines || !fresh then none
        blockEntries fuel c.column c []

def blockElements : Nat → Nat → Cursor → List Yaml → Read
  | 0, _, _, _ => none
  | fuel + 1, column, c, done => do
    let dash := c.advance 1
    let (start, newLine) := dash.gap false false
    let (value, finish) ←
      if start.atEnd || (newLine && decide (start.column ≤ column)) then some (blank, dash)
      else blockValue fuel column true start
    let done := value :: done
    let (next, newLine) := finish.gap false true
    if next.atEnd || decide (next.column < column) then return (.sequence done.reverse, finish)
    if !newLine || decide (column < next.column) then none
    if next.atDash then blockElements fuel column next done
    else return (.sequence done.reverse, finish)

/-- The value of an entry of a mapping at a column, from behind the colon on. A sequence need not be
indented more than the mapping. -/
def entryValue : Nat → Nat → Cursor → Read
  | 0, _, _ => none
  | fuel + 1, column, c =>
    let (start, newLine) := c.gap false true
    if start.atEnd then some (blank, c)
    else if !newLine then blockValue fuel column false start
    else if column < start.column then blockValue fuel column true start
    else if start.column = column ∧ start.atDash then blockElements fuel column start []
    else some (blank, c)

def blockEntries : Nat → Nat → Cursor → List (String × Yaml) → Read
  | 0, _, _, _ => none
  | fuel + 1, column, c, done => do
    let s ← readWord false column c
    if s.severalLines || !s.finish.atColon then none
    let key ← s.value.text?
    let (value, finish) ← entryValue fuel column (s.finish.skipSpaces.advance 1)
    let done := (key, value) :: done
    let (next, newLine) := finish.gap false true
    if next.atEnd || decide (next.column < column) then return (.mapping done.reverse, finish)
    if !newLine || decide (column < next.column) then none
    blockEntries fuel column next done

end

/-! ### Documents -/

def isAllowed (c : Char) : Bool :=
  c == '\t' || c == '\n' || (decide (32 ≤ c.toNat) && c.toNat != 127 &&
    !(decide (128 ≤ c.toNat) && decide (c.toNat < 160) && c.toNat != 133) &&
    !(decide (0xFFFE ≤ c.toNat) && decide (c.toNat < 0x10000)))

def unifyLineEnds : List Char → List Char
  | [] => []
  | '\r' :: '\n' :: rest => '\n' :: unifyLineEnds rest
  | '\r' :: rest => '\n' :: unifyLineEnds rest
  | c :: rest => c :: unifyLineEnds rest

def isMarker (mark : Char) (line : List Char) : Bool :=
  line.take 3 == [mark, mark, mark] && endsWord (line.drop 3)

def isVoid (line : List Char) : Bool :=
  match line.dropWhile (· = ' ') with
  | [] => true
  | c :: _ => c == '#'

/-- The lines of the only document, up to a marker of its end. A marker of its start is blanked out; the
document may start on the line of the marker, which is told. -/
def documentLines (lines : List (List Char)) : Option (List (List Char) × Bool) :=
  let content := lines.dropWhile isVoid
  let marked := content.head?.any (isMarker '-')
  let content := if marked then content.modifyHead fun line => [' ', ' ', ' '] ++ line.drop 3
    else content
  let inside := content.takeWhile fun line => !isMarker '-' line && !isMarker '.' line
  let behind := content.drop inside.length
  if behind.head?.any (isMarker '-') || !(behind.drop 1).all isVoid then none
  else some (inside, marked)

def nestingLimit : Nat := 128

/-- The value of a document. On the line of a marker no mapping or sequence starts that is marked by
indentation. -/
def readDocument (s : List Char) (marked : Bool) : Option Yaml :=
  let (start, newLine) := gapFrom false false false false 0 s
  if start.atEnd then some blank
  else do
    let (value, finish) ← blockValue (4 * s.length + 8) (-1) (newLine || !marked) start
    if !(finish.gap false true).1.atEnd then none
    some value

def dropByteOrderMark : List Char → List Char
  | c :: rest => if c.toNat = 0xFEFF then rest else c :: rest
  | [] => []

def read (s : String) : Option Yaml := do
  let chars := unifyLineEnds (dropByteOrderMark s.toList)
  if !chars.all isAllowed then none
  let (lines, marked) ← documentLines (textLines chars)
  let value ← readDocument (lines.intersperse ['\n']).flatten marked
  if value.nesting ≤ nestingLimit then some value else none

end MockApi.Yaml
