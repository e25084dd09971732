import MockApi.Yaml

/-!
# YAML scalars

Reading the words and texts of a YAML document from a place in it. A line end inside a plain or quoted
scalar is folded into a blank, and each empty line behind it into a line end. A block scalar keeps its
lines by their indentation.
-/

namespace MockApi.Yaml

/-- A place in a text: what follows it, and how many characters stand before it on its line. -/
structure Cursor where
  rest : List Char
  column : Nat

namespace Cursor

def advance (c : Cursor) (count : Nat) : Cursor := ⟨c.rest.drop count, c.column + count⟩

def atEnd (c : Cursor) : Bool := c.rest.isEmpty

def moveTo (c : Cursor) (rest : List Char) : Cursor :=
  let passed := c.rest.take (c.rest.length - rest.length)
  let lastLine := passed.reverse.takeWhile (· ≠ '\n')
  ⟨rest, if lastLine.length = passed.length then c.column + passed.length else lastLine.length⟩

end Cursor

def isSpace (c : Char) : Bool := c == ' ' || c == '\t'

def endsWord : List Char → Bool
  | [] => true
  | c :: _ => isSpace c || c == '\n'

def isIndicator (indicator : Char) : List Char → Bool
  | c :: rest => c == indicator && endsWord rest
  | [] => false

def isFlowMark (c : Char) : Bool := ",[]\x7b\x7d".toList.contains c

/-! ### Gaps -/

/-- The next token behind blanks, comments and line ends, and whether a line ended. Tabs count as blanks
where `tabs` says so, and on new lines only between brackets. -/
def gapFrom (flow tabs inComment newline : Bool) (column : Nat) : List Char → Cursor × Bool
  | [] => (⟨[], column⟩, newline)
  | c :: rest =>
    if c = '\n' then gapFrom flow flow false true 0 rest
    else if inComment then gapFrom flow tabs true newline (column + 1) rest
    else if c = '#' then gapFrom flow tabs true newline (column + 1) rest
    else if c = ' ' ∨ (c = '\t' ∧ tabs) then gapFrom flow tabs false newline (column + 1) rest
    else (⟨c :: rest, column⟩, newline)

def Cursor.gap (c : Cursor) (flow tabs : Bool) : Cursor × Bool :=
  gapFrom flow tabs false false c.column c.rest

/-! ### Line ends inside scalars -/

def lineEnds : Nat → List Char → Nat × List Char
  | count, c :: rest =>
    if c = '\n' then lineEnds (count + 1) rest
    else if isSpace c then lineEnds count rest
    else (count, c :: rest)
  | count, [] => (count, [])

def foldedEnds (count : Nat) : List Char :=
  if count ≤ 1 then [' '] else List.replicate (count - 1) '\n'

/-! ### Plain words -/

def stopsPlain (flow : Bool) : List Char → Bool
  | [] => true
  | c :: rest => c == '\n' || isIndicator ':' (c :: rest) || (flow && isFlowMark c)

def misplacesColon (flow : Bool) : List Char → Bool
  | ':' :: c :: _ => flow && (isFlowMark c || c == '?')
  | _ => false

/-- The part of a plain word on one line, and what follows it. Blanks at its end belong to what
follows. -/
def plainLine (flow : Bool) (afterBlank : Bool) : List Char → Option (List Char × List Char)
  | [] => some ([], [])
  | c :: rest =>
    if misplacesColon flow (c :: rest) then none
    else if stopsPlain flow (c :: rest) || (c == '#' && afterBlank) then some ([], c :: rest)
    else match plainLine flow (isSpace c) rest with
      | none => none
      | some (word, after) =>
        if isSpace c && word.isEmpty then some ([], c :: rest) else some (c :: word, after)

def continuesPlain (flow : Bool) (indent : Int) (c : Cursor) : Bool :=
  (flow || decide (indent < c.column)) && !stopsPlain flow c.rest && c.rest.head? != some '#'

def plainLines (flow : Bool) (indent : Int) : Nat → Cursor → Option (List Char × Cursor × Bool)
  | 0, c => some ([], c, false)
  | fuel + 1, c =>
    let (ends, rest) := lineEnds 0 c.rest
    let next := c.moveTo rest
    if ends = 0 ∨ !continuesPlain flow indent next then some ([], c, false)
    else do
      let (line, after) ← plainLine flow false next.rest
      let (more, finish, _) ← plainLines flow indent fuel (next.moveTo after)
      return (foldedEnds ends ++ line ++ more, finish, true)

structure Scalar where
  value : Yaml
  severalLines : Bool
  finish : Cursor

/-- A plain word. Its lines are indented more than `indent` unless it stands between brackets. -/
def readPlain (flow : Bool) (indent : Int) (c : Cursor) : Option Scalar := do
  let (line, after) ← plainLine flow false c.rest
  let (more, finish, severalLines) ← plainLines flow indent after.length (c.moveTo after)
  return ⟨.plain (String.ofList (line ++ more)), severalLines, finish⟩

/-! ### Quoted texts -/

def escaped? (c : Char) : Option Char :=
  match c with
  | '0' => some '\x00'
  | 'a' => some '\x07'
  | 'b' => some '\x08'
  | 't' | '\t' => some '\t'
  | 'n' => some '\n'
  | 'v' => some '\x0b'
  | 'f' => some '\x0c'
  | 'r' => some '\r'
  | 'e' => some '\x1b'
  | ' ' => some ' '
  | '"' => some '"'
  | '/' => some '/'
  | '\\' => some '\\'
  | 'N' => some '\u0085'
  | '_' => some '\u00a0'
  | 'L' => some '\u2028'
  | 'P' => some '\u2029'
  | _ => none

def escapeDigits? (c : Char) : Option Nat :=
  match c with
  | 'x' => some 2
  | 'u' => some 4
  | 'U' => some 8
  | _ => none

def charOf? (n : Nat) : Option Char := if n.isValidChar then some (Char.ofNat n) else none

def readEscape : List Char → Option (List Char × List Char)
  | [] => none
  | '\n' :: rest => some ([], rest.dropWhile isSpace)
  | c :: rest =>
    match escapeDigits? c with
    | some count => do
      let digits := rest.take count
      if digits.length < count then none
      let n ← inBase? 16 digits
      return ([← charOf? n], rest.drop count)
    | none => (escaped? c).map fun c => ([c], rest)

def quotedText (quote : Char) : Nat → List Char → Option (List Char × List Char)
  | 0, _ => none
  | _ + 1, [] => none
  | fuel + 1, c :: rest =>
    let goOn (text : List Char) (rest : List Char) : Option (List Char × List Char) :=
      (quotedText quote fuel rest).map fun (more, after) => (text ++ more, after)
    if c = quote then
      if quote = '\'' ∧ rest.head? = some quote then goOn [quote] (rest.drop 1) else some ([], rest)
    else if c = '\\' ∧ quote = '"' then
      match readEscape rest with
      | some (text, rest) => goOn text rest
      | none => none
    else if isSpace c ∨ c = '\n' then
      let (ends, after) := lineEnds 0 (c :: rest)
      if ends = 0 then goOn [c] rest else goOn (foldedEnds ends) after
    else goOn [c] rest

def readQuoted (quote : Char) (c : Cursor) : Option Scalar := do
  let (text, after) ← quotedText quote c.rest.length (c.rest.drop 1)
  let passed := c.rest.take (c.rest.length - after.length)
  return ⟨.quoted (String.ofList text), passed.contains '\n', c.moveTo after⟩

/-! ### Block scalars -/

inductive Chomping
  | strip
  | clip
  | keep

def blockHeader : List Char → Chomping × Option Nat × List Char
  | '-' :: rest => (.strip, indentation rest)
  | '+' :: rest => (.keep, indentation rest)
  | rest =>
    match indentation rest with
    | (some n, '-' :: rest) => (.strip, some n, rest)
    | (some n, '+' :: rest) => (.keep, some n, rest)
    | (indent, rest) => (.clip, indent, rest)
where
  indentation : List Char → Option Nat × List Char
    | c :: rest => if '1' ≤ c ∧ c ≤ '9' then (some (c.toNat - 48), rest) else (none, c :: rest)
    | [] => (none, [])

def textLines (s : List Char) : List (List Char) := Text.splitOn '\n' s

def leadingSpaces (line : List Char) : Nat := (line.takeWhile (· = ' ')).length

def isBlankLine (indent : Nat) (line : List Char) : Bool :=
  (line.dropWhile (· = ' ')).isEmpty && decide (leadingSpaces line ≤ indent)

/-- The indentation of a block scalar without one of its own: that of its first line with content, but
more than that of its parent. -/
def detectedIndent (least : Nat) (lines : List (List Char)) : Nat :=
  let leading := lines.takeWhile fun line => (line.dropWhile (· = ' ')).isEmpty
  let content := ((lines.drop leading.length).head?.map leadingSpaces).getD 0
  (leading.map leadingSpaces).foldl Nat.max (Nat.max least content)

def blockLines (indent : Nat) : List (List Char) → List (List Char)
  | [] => []
  | line :: rest =>
    if isBlankLine indent line then [] :: blockLines indent rest
    else if indent ≤ leadingSpaces line then line.drop indent :: blockLines indent rest
    else []

def dropEmptyEnd (lines : List (List Char)) : List (List Char) × Nat :=
  let backward := lines.reverse.dropWhile List.isEmpty
  (backward.reverse, lines.length - backward.length)

/-- Lines folded: a line end between two lines that do not start with blanks becomes a blank, and empty
lines between them become line ends. `pending` line ends wait, and `afterBlank` says that they are kept. -/
def foldLines (pending : Nat) (afterBlank : Bool) : List (List Char) → List Char
  | [] => []
  | [] :: rest => foldLines (pending + 1) afterBlank rest
  | (c :: line) :: rest =>
    let startsBlank := isSpace c
    let ends : List Char :=
      if pending = 0 then []
      else if afterBlank || startsBlank then List.replicate pending '\n'
      else foldedEnds pending
    ends ++ c :: line ++ foldLines 1 startsBlank rest

def readBlock (folded : Bool) (indent : Int) (c : Cursor) : Option Scalar := do
  let (chomping, stated, afterHeader) := blockHeader (c.rest.drop 1)
  let header := afterHeader.takeWhile (· ≠ '\n')
  let comment := header.dropWhile isSpace
  if !(comment.isEmpty || comment.head? == some '#') then none
  let parent := indent.toNat
  let lines := match afterHeader.dropWhile (· ≠ '\n') with
    | [] => []
    | _ :: rest => textLines rest
  let indent := match stated with
    | some n => parent + n
    | none => detectedIndent (Nat.max 1 (indent + 1).toNat) lines
  let taken := blockLines indent lines
  -- The last of the lines has no line end of its own.
  let isLast := taken.length == lines.length
  let closed := if isLast then taken.dropLast else taken
  let tail : List Char := if isLast then taken.getLast?.getD [] else []
  let (content, emptyEnd) := dropEmptyEnd (closed ++ if tail.isEmpty then [] else [tail])
  let hasEnd := tail.isEmpty
  let body : List Char :=
    if folded then foldLines 0 true content
    else (content.intersperse ['\n']).flatten
  let ends : List Char := match chomping with
    | .strip => []
    | .clip => if content.isEmpty || !hasEnd then [] else ['\n']
    | .keep =>
      List.replicate (emptyEnd + if content.isEmpty || !hasEnd then 0 else 1) '\n'
  let passed := header.length + taken.length + (lines.take taken.length).flatten.length
  return ⟨.quoted (String.ofList (body ++ ends)), true, c.moveTo (afterHeader.drop passed)⟩

end MockApi.Yaml
