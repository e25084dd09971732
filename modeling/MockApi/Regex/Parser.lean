import MockApi.Regex
import MockApi.Text.Parts

/-!
# Reading regular expressions

The text of an expression is read from left to right. Groups that are still open, and brackets inside
brackets, wait on a stack, so each loop takes at least one character a round and its fuel is the
number of characters.
-/

namespace MockApi.Regex

structure Flags where
  ignoreCase : Bool := false
  multiLine : Bool := false
  dotAll : Bool := false
  swapGreed : Bool := false
  unicode : Bool := true
  crlf : Bool := false
  verbose : Bool := false

def Flags.fold (flags : Flags) (s : CharSet) : CharSet :=
  if !flags.ignoreCase then s
  else if flags.unicode then .anyCase s
  else .inter (.anyCase s) (.property .ascii)

def asciiDigits : CharSet := .range '0' '9'

def asciiBlanks : CharSet :=
  .union (.range (Char.ofNat 9) (Char.ofNat 13)) (.one ' ')

def asciiWords : CharSet :=
  .union (.union (.range 'a' 'z') (.range 'A' 'Z')) (.union asciiDigits (.one '_'))

def Flags.words (flags : Flags) : CharSet :=
  if flags.unicode then .property .word else asciiWords

inductive Primitive
  | literal (c : Char)
  | class (s : CharSet)
  | assertion (a : Assertion)

/-! ### Numbers and names -/

def hexNumber? (digits : List Char) : Option Nat :=
  if digits.isEmpty then none
  else digits.foldlM (fun n c =>
    if '0' ≤ c ∧ c ≤ '9' then some (n * 16 + (c.toNat - 48))
    else if 'a' ≤ c ∧ c ≤ 'f' then some (n * 16 + (c.toNat - 87))
    else if 'A' ≤ c ∧ c ≤ 'F' then some (n * 16 + (c.toNat - 55))
    else none) 0

def scalar? (n : Nat) : Option Char :=
  if h : n.isValidChar then some (Char.ofNatAux n h) else none

def hexChar? (width : Nat) (s : List Char) : Option (Char × List Char) :=
  match s with
  | '\x7b' :: rest =>
    match Text.splitOnce '\x7d' rest with
    | none => none
    | some (digits, rest) =>
      if 8 < digits.length then none
      else ((hexNumber? digits).bind scalar?).map (·, rest)
  | s =>
    if (s.take width).length < width then none
    else ((hexNumber? (s.take width)).bind scalar?).map (·, s.drop width)

def property? (name : List Char) : Option Property :=
  let plain := String.ofList <|
    (name.filter fun c => c ≠ ' ' ∧ c ≠ '_' ∧ c ≠ '-').map Char.toLower
  [(["any"], Property.any), (["ascii"], .ascii), (["assigned"], .assigned),
    (["alphabetic", "alpha"], .alphabetic), (["lowercase", "lower"], .lowercase),
    (["uppercase", "upper"], .uppercase), (["whitespace", "wspace", "space"], .blank),
    (["l", "letter"], .letter), (["lu", "uppercaseletter"], .upperLetter),
    (["ll", "lowercaseletter"], .lowerLetter), (["lt", "titlecaseletter"], .titleLetter),
    (["lc", "casedletter"], .casedLetter), (["lm", "modifierletter"], .modifierLetter),
    (["lo", "otherletter"], .otherLetter), (["m", "mark", "combiningmark"], .mark),
    (["mn", "nonspacingmark"], .plainMark), (["mc", "spacingmark"], .spacingMark),
    (["me", "enclosingmark"], .enclosingMark), (["n", "number"], .number),
    (["nd", "decimalnumber", "digit"], .decimal), (["nl", "letternumber"], .letterNumber),
    (["no", "othernumber"], .otherNumber), (["p", "punctuation", "punct"], .punctuation),
    (["s", "symbol"], .symbol), (["z", "separator"], .separator)].findSome?
    fun (names, p) => if plain ∈ names then some p else none

def propertyClass? (negated : Bool) (s : List Char) : Option (CharSet × List Char) :=
  let set (negated : Bool) (name : List Char) : Option CharSet :=
    (property? name).map fun p => if negated then .complement (.property p) else .property p
  match s with
  | '\x7b' :: rest =>
    match Text.splitOnce '\x7d' rest with
    | none => none
    | some ('^' :: name, rest) => (set (!negated) name).map (·, rest)
    | some (name, rest) => (set negated name).map (·, rest)
  | c :: rest => (set negated [c]).map (·, rest)
  | [] => none

/-! ### Escapes -/

def isEscapable (c : Char) : Bool :=
  decide (c.toNat < 128) && !c.isAlphanum && c != '<' && c != '>'

/-- A class of plain letters behind a backslash; without Unicode the complement of a class is
refused, since it could split a character. -/
def perlClass? (flags : Flags) (c : Char) : Option CharSet :=
  let set : Option CharSet := match c.toLower with
    | 'd' => some (if flags.unicode then .property .decimal else asciiDigits)
    | 's' => some (if flags.unicode then .property .blank else asciiBlanks)
    | 'w' => some flags.words
    | _ => none
  if c.isUpper then if flags.unicode then set.map .complement else none else set

def wordBoundary? (flags : Flags) (s : List Char) : Option (Assertion × List Char) :=
  let words := flags.words
  match s with
  | '\x7b' :: c :: rest =>
    if !(c.isAlpha || c = '-') then some (.boundary words, s)
    else match Text.splitOnce '\x7d' (c :: rest) with
      | none => none
      | some (name, rest) =>
        match String.ofList name with
        | "start" => some (.wordStart words, rest)
        | "end" => some (.wordEnd words, rest)
        | "start-half" => some (.halfStart words, rest)
        | "end-half" => some (.halfEnd words, rest)
        | _ => none
  | s => some (.boundary words, s)

def escape? (flags : Flags) (s : List Char) : Option (Primitive × List Char) :=
  match s with
  | [] => none
  | c :: rest =>
    match c with
    | 'x' => (hexChar? 2 rest).map fun (c, rest) => (.literal c, rest)
    | 'u' => (hexChar? 4 rest).map fun (c, rest) => (.literal c, rest)
    | 'U' => (hexChar? 8 rest).map fun (c, rest) => (.literal c, rest)
    | 'p' => (propertyClass? false rest).map fun (s, rest) => (.class s, rest)
    | 'P' => (propertyClass? true rest).map fun (s, rest) => (.class s, rest)
    | 'a' => some (.literal (Char.ofNat 7), rest)
    | 'f' => some (.literal (Char.ofNat 12), rest)
    | 't' => some (.literal '\t', rest)
    | 'n' => some (.literal '\n', rest)
    | 'r' => some (.literal '\r', rest)
    | 'v' => some (.literal (Char.ofNat 11), rest)
    | 'A' => some (.assertion .startText, rest)
    | 'z' => some (.assertion .endText, rest)
    | 'b' => (wordBoundary? flags rest).map fun (a, rest) => (.assertion a, rest)
    | 'B' => some (.assertion (.inside flags.words), rest)
    | '<' => some (.assertion (.wordStart flags.words), rest)
    | '>' => some (.assertion (.wordEnd flags.words), rest)
    | c =>
      if c ∈ ['d', 's', 'w', 'D', 'S', 'W'] then
        (perlClass? flags c).map fun s => (.class s, rest)
      else if isEscapable c then some (.literal c, rest)
      else none

/-! ### Brackets -/

inductive SetOp
  | inter
  | difference
  | symmetric

def SetOp.apply : SetOp → CharSet → CharSet → CharSet
  | inter, a, b => .inter a b
  | difference, a, b => .inter a (.complement b)
  | symmetric, a, b => .union (.inter a (.complement b)) (.inter b (.complement a))

/-- Brackets that are still open: the left side of an operation, and the sets since then. -/
structure Bracket where
  negated : Bool
  left : Option (SetOp × CharSet)
  items : CharSet

def Bracket.add (b : Bracket) (s : CharSet) : Bracket :=
  { b with items := if b.items = .none then s else .union b.items s }

def Bracket.joined (b : Bracket) : CharSet :=
  match b.left with
  | some (op, left) => op.apply left b.items
  | none => b.items

def Bracket.finish (b : Bracket) : CharSet :=
  if b.negated then .complement b.joined else b.joined

/-- The hyphens, and a closing bracket, that stand for themselves at the start of brackets. -/
def leadingLiterals (flags : Flags) : Nat → Bracket → List Char → Bracket × List Char
  | 0, b, s => (b, s)
  | fuel + 1, b, s =>
    match s with
    | '-' :: rest => leadingLiterals flags fuel (b.add (flags.fold (.one '-'))) rest
    | ']' :: rest =>
      if b.items = .none then (b.add (flags.fold (.one ']')), rest) else (b, s)
    | s => (b, s)

def openBracket (flags : Flags) (s : List Char) : Option (Bracket × List Char) :=
  let (negated, s) := match s with
    | '^' :: rest => (true, rest)
    | s => (false, s)
  if negated && !flags.unicode then none
  else some (leadingLiterals flags s.length ⟨negated, none, .none⟩ s)

def asciiClass? (name : String) : Option CharSet :=
  let letters : CharSet := .union (.range 'a' 'z') (.range 'A' 'Z')
  match name with
  | "alnum" => some (.union letters asciiDigits)
  | "alpha" => some letters
  | "ascii" => some (.range (Char.ofNat 0) (Char.ofNat 127))
  | "blank" => some (.union (.one ' ') (.one '\t'))
  | "cntrl" => some (.union (.range (Char.ofNat 0) (Char.ofNat 31)) (.one (Char.ofNat 127)))
  | "digit" => some asciiDigits
  | "graph" => some (.range '!' '~')
  | "lower" => some (.range 'a' 'z')
  | "print" => some (.range ' ' '~')
  | "punct" => some (.union (.union (.range '!' '/') (.range ':' '@'))
      (.union (.range '[' (Char.ofNat 96)) (.range '\x7b' '~')))
  | "space" => some asciiBlanks
  | "upper" => some (.range 'A' 'Z')
  | "word" => some asciiWords
  | "xdigit" => some (.union asciiDigits (.union (.range 'a' 'f') (.range 'A' 'F')))
  | _ => none

def namedClass? (s : List Char) : Option (CharSet × List Char) :=
  match s with
  | ':' :: rest =>
    let (negated, rest) := match rest with
      | '^' :: rest => (true, rest)
      | rest => (false, rest)
    match Text.splitOnce ':' rest with
    | some (name, ']' :: rest) =>
      (asciiClass? (String.ofList name)).map fun s => (if negated then .complement s else s, rest)
    | _ => none
  | _ => none

def bracketPrimitive? (flags : Flags) (s : List Char) : Option (Primitive × List Char) :=
  match s with
  | '\\' :: rest => escape? flags rest
  | c :: rest => some (.literal c, rest)
  | [] => none

def isVerboseBlank (flags : Flags) (c : Char) : Bool := flags.verbose && Text.isBlank c

def bracketItem? (flags : Flags) (s : List Char) : Option (CharSet × List Char) := do
  let (first, rest) ← bracketPrimitive? flags s
  let rest := rest.dropWhile (isVerboseBlank flags)
  let single : Option CharSet := match first with
    | .literal c => some (flags.fold (.one c))
    | .class s => some s
    | .assertion _ => none
  match rest with
  | '-' :: after =>
    let after := after.dropWhile (isVerboseBlank flags)
    match after with
    | ']' :: _ | '-' :: _ => single.map (·, rest)
    | [] => none
    | after =>
      let (last, rest) ← bracketPrimitive? flags after
      match first, last with
      | .literal a, .literal b => if a ≤ b then some (flags.fold (.range a b), rest) else none
      | _, _ => none
  | rest => single.map (·, rest)

def bracketRest (flags : Flags) : Nat → List Bracket → Bracket → List Char →
    Option (CharSet × List Char)
  | 0, _, _, _ => none
  | fuel + 1, outer, b, s =>
    let operation (op : SetOp) (rest : List Char) :=
      bracketRest flags fuel outer ⟨b.negated, some (op, b.joined), .none⟩ rest
    match s with
    | [] => none
    | ']' :: rest =>
      match outer with
      | [] => some (b.finish, rest)
      | around :: outer => bracketRest flags fuel outer (around.add b.finish) rest
    | '[' :: rest =>
      match namedClass? rest with
      | some (s, rest) => bracketRest flags fuel outer (b.add (flags.fold s)) rest
      | none =>
        match openBracket flags rest with
        | some (inner, rest) => bracketRest flags fuel (b :: outer) inner rest
        | none => none
    | '&' :: '&' :: rest => operation .inter rest
    | '-' :: '-' :: rest => operation .difference rest
    | '~' :: '~' :: rest => operation .symmetric rest
    | c :: rest =>
      if isVerboseBlank flags c then bracketRest flags fuel outer b rest
      else match bracketItem? flags (c :: rest) with
        | some (s, rest) => bracketRest flags fuel outer (b.add s) rest
        | none => none

def bracket? (flags : Flags) (s : List Char) : Option (CharSet × List Char) :=
  match openBracket flags s with
  | some (b, rest) => bracketRest flags (rest.length + 1) [] b rest
  | none => none

/-! ### Groups and repetitions -/

/-- Switches before the end of a group's head, each at most once and not all behind a minus. -/
def switches? : List Char → Bool → Bool → List Char → Flags → Option (Flags × Char × List Char)
  | [], _, _, _, _ => none
  | c :: rest, negated, dangling, seen, flags =>
    if c = ':' ∨ c = ')' then
      if dangling ∨ (c = ')' ∧ seen.isEmpty ∧ !negated) then none else some (flags, c, rest)
    else if c = '-' then
      if negated then none else switches? rest true true seen flags
    else if c ∈ seen then none
    else
      let on := !negated
      let set : Option Flags := match c with
        | 'i' => some { flags with ignoreCase := on }
        | 'm' => some { flags with multiLine := on }
        | 's' => some { flags with dotAll := on }
        | 'U' => some { flags with swapGreed := on }
        | 'u' => some { flags with unicode := on }
        | 'R' => some { flags with crlf := on }
        | 'x' => some { flags with verbose := on }
        | _ => none
      match set with
      | some flags => switches? rest negated false (c :: seen) flags
      | none => none

/-- A group that is still open: what to go back to when it ends. -/
structure Group where
  flags : Flags
  alternatives : List Regex
  pieces : List (Option Regex)

/-- The reading of an expression so far. A piece that is `none` is a switch, which cannot be
repeated. -/
structure Reading where
  flags : Flags
  groups : List Group
  names : List (List Char)
  alternatives : List Regex
  pieces : List (Option Regex)

def sequence (pieces : List (Option Regex)) : Regex :=
  match pieces.reverse.filterMap id with
  | [] => .empty
  | r :: rest => rest.foldl .concat r

def Reading.joined (r : Reading) : Regex :=
  match (sequence r.pieces :: r.alternatives).reverse with
  | [] => .empty
  | s :: rest => rest.foldl .alt s

def Reading.push (r : Reading) (piece : Regex) : Reading :=
  { r with pieces := some piece :: r.pieces }

def Reading.opened (r : Reading) (flags : Flags) : Reading :=
  ⟨flags, ⟨r.flags, r.alternatives, r.pieces⟩ :: r.groups, r.names, [], []⟩

def isNameStart (c : Char) : Bool := c == '_' || Text.isAlphabetic c

def isNamePart (c : Char) : Bool :=
  c == '_' || c == '.' || c == '[' || c == ']' || Text.isAlphanumeric c

def Reading.named (r : Reading) (s : List Char) : Option (Reading × List Char) :=
  match Text.splitOnce '>' s with
  | some (c :: name, rest) =>
    if isNameStart c ∧ name.all isNamePart ∧ (c :: name) ∉ r.names then
      some ({ r.opened r.flags with names := (c :: name) :: r.names }, rest)
    else none
  | _ => none

def Reading.openGroup (r : Reading) (s : List Char) : Option (Reading × List Char) :=
  match s with
  | '?' :: 'P' :: '<' :: rest => r.named rest
  | '?' :: '<' :: rest => r.named rest
  | '?' :: rest =>
    match switches? rest false false [] r.flags with
    | some (flags, ':', rest) => some (r.opened flags, rest)
    | some (flags, _, rest) => some ({ r with flags, pieces := none :: r.pieces }, rest)
    | none => none
  | s => some (r.opened r.flags, s)

def Reading.repeated (r : Reading) (min : Nat) (max : Option Nat) (s : List Char) :
    Option (Reading × List Char) :=
  let rest := match s with
    | '?' :: rest => rest
    | s => s
  match r.pieces with
  | some piece :: pieces =>
    some ({ r with pieces := some (.repetition piece min max) :: pieces }, rest)
  | _ => none

def count? (s : List Char) : Option (Nat × List Char) :=
  let s := s.dropWhile Text.isBlank
  let digits := s.takeWhile Char.isDigit
  let n : Nat := digits.foldl (fun n c => n * 10 + (c.toNat - 48)) 0
  if digits.isEmpty || decide (2 ^ 32 ≤ n) then none
  else some (n, (s.dropWhile Char.isDigit).dropWhile Text.isBlank)

def bounds? (s : List Char) : Option (Nat × Option Nat × List Char) := do
  let (min, rest) ← count? s
  match rest with
  | '\x7d' :: rest => some (min, some min, rest)
  | ',' :: '\x7d' :: rest => some (min, none, rest)
  | ',' :: rest =>
    let (max, rest) ← count? rest
    match rest with
    | '\x7d' :: rest => if min ≤ max then some (min, some max, rest) else none
    | _ => none
  | _ => none

def Flags.literal (flags : Flags) (c : Char) : Regex := .set (flags.fold (.one c))

def Reading.step (r : Reading) (s : List Char) : Option (Reading × List Char) :=
  match s with
  | [] => none
  | '(' :: rest => r.openGroup rest
  | ')' :: rest =>
    match r.groups with
    | [] => none
    | g :: groups =>
      some (⟨g.flags, groups, r.names, g.alternatives, some r.joined :: g.pieces⟩, rest)
  | '|' :: rest =>
    some ({ r with alternatives := sequence r.pieces :: r.alternatives, pieces := [] }, rest)
  | '[' :: rest => (bracket? r.flags rest).map fun (s, rest) => (r.push (.set s), rest)
  | '?' :: rest => r.repeated 0 (some 1) rest
  | '*' :: rest => r.repeated 0 none rest
  | '+' :: rest => r.repeated 1 none rest
  | '\x7b' :: rest => do
    let (min, max, rest) ← bounds? rest
    r.repeated min max rest
  | '.' :: rest =>
    if !r.flags.unicode then none
    else if r.flags.dotAll then some (r.push (.set (.property .any)), rest)
    else if r.flags.crlf then
      some (r.push (.set (.complement (.union (.one '\n') (.one '\r')))), rest)
    else some (r.push (.set (.complement (.one '\n'))), rest)
  | '^' :: rest =>
    some (r.push (.assertion (if r.flags.multiLine then .startLine else .startText)), rest)
  | '$' :: rest =>
    some (r.push (.assertion (if r.flags.multiLine then .endLine else .endText)), rest)
  | '\\' :: rest => do
    let (primitive, rest) ← escape? r.flags rest
    let piece : Regex := match primitive with
      | .literal c => r.flags.literal c
      | .class s => .set s
      | .assertion a => .assertion a
    some (r.push piece, rest)
  | c :: rest =>
    if isVerboseBlank r.flags c then some (r, rest)
    else if r.flags.verbose && c == '#' then some (r, rest.dropWhile (· ≠ '\n'))
    else some (r.push (r.flags.literal c), rest)

def Reading.run : Nat → Reading → List Char → Option Reading
  | _, r, [] => some r
  | 0, _, _ :: _ => none
  | fuel + 1, r, s =>
    match r.step s with
    | some (r, rest) => Reading.run fuel r rest
    | none => none

/-- The expression that a text writes, if it is well formed and not too large. -/
def ofString? (s : String) : Option Regex :=
  match Reading.run s.length ⟨{}, [], [], [], []⟩ s.toList with
  | some r => if r.groups.isEmpty ∧ r.joined.weight ≤ weightLimit then some r.joined else none
  | none => none

/-- Whether the expression that `pattern` writes matches a part of `s`; `none` when it writes none. -/
def patternMatches (pattern s : String) : Option Bool := (ofString? pattern).map (·.isMatch s)

end MockApi.Regex
