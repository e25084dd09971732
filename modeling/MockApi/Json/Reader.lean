import MockApi.Json

/-!
# Reading JSON

Reading has two passes, each one walk along its input. `tokens` cuts the text into tokens, and
`assemble` builds the value with a stack of the containers that are still open. `readRaw` keeps
the members of an object as written, so that a name may stand twice; `read` lists them by name and
keeps the last of a name.
-/

namespace MockApi.Json

def nestingLimit : Nat := 127

/-! ### Numbers -/

def isDigit (c : Char) : Bool := decide ('0' ≤ c) && decide (c ≤ '9')

def digitValue (c : Char) : Nat := c.toNat - 48

/-- A significand read digit by digit, and how many further digits did not fit in 64 bits. -/
def readWholeDigits : List Char → Nat → Nat × Nat
  | [], n => (n, 0)
  | c :: rest, n =>
    if n * 10 + digitValue c < 2 ^ 64 then readWholeDigits rest (n * 10 + digitValue c)
    else (n, rest.length + 1)

def readFractionDigits : List Char → Nat → Nat → Nat × Nat
  | [], n, count => (n, count)
  | c :: rest, n, count =>
    if n * 10 + digitValue c < 2 ^ 64 then
      readFractionDigits rest (n * 10 + digitValue c) (count + 1)
    else (n, count)

def digitsValue (digits : List Char) : Nat := digits.foldl (fun n c => n * 10 + digitValue c) 0

def readExponent (s : List Char) : Option (Bool × Nat) :=
  let (negative, digits) := match s with
    | '+' :: rest => (false, rest)
    | '-' :: rest => (true, rest)
    | rest => (false, rest)
  if digits.isEmpty || !digits.all isDigit then none else some (negative, digitsValue digits)

def readUnsigned (negative : Bool) (s : List Char) : Option Number :=
  let whole := s.takeWhile isDigit
  let afterWhole := s.dropWhile isDigit
  if whole.isEmpty || (decide (1 < whole.length) && whole.head? == some '0') then none
  else
    let (significand, dropped) := readWholeDigits whole 0
    if afterWhole.isEmpty && dropped = 0 then
      if !negative then some (.whole significand)
      else if significand = 0 ∨ 2 ^ 63 < significand then
        (Binary64.scaleByTen true significand 0).map .double
      else some (.whole (-significand))
    else
      let withFraction : Option (Nat × Int × List Char) := match afterWhole with
        | '.' :: rest =>
          let fraction := rest.takeWhile isDigit
          if fraction.isEmpty then none
          else
            let (n, count) := readFractionDigits fraction significand 0
            some (n, (dropped : Int) - count, rest.dropWhile isDigit)
        | rest => some (significand, dropped, rest)
      match withFraction with
      | none => none
      | some (n, scale, rest) =>
        match rest with
        | [] => (Binary64.scaleByTen negative n scale).map .double
        | e :: rest =>
          if e ≠ 'e' ∧ e ≠ 'E' then none
          else match readExponent rest with
            | none => none
            | some (down, size) =>
              if size < 2 ^ 31 then
                (Binary64.scaleByTen negative n (if down then scale - size else scale + size)).map
                  .double
              else if n ≠ 0 ∧ !down then none
              else (Binary64.scaleByTen negative 0 0).map .double

def readNumber (s : List Char) : Option Number :=
  match s with
  | '-' :: rest => readUnsigned true rest
  | rest => readUnsigned false rest

/-! ### Tokens -/

inductive Token
  | openArray
  | closeArray
  | openObject
  | closeObject
  | comma
  | colon
  | text (s : String)
  | scalar (value : Json)

/-- Where inside the text the walk stands. -/
inductive Position
  | between
  | plain (soFar : List Char)
  | quotes (soFar : List Char)
  | escape (soFar : List Char)
  /-- Inside the four hexadecimal digits of an escape: how many are left, their value, and the first
  half of a pair that waits for its second. -/
  | hex (soFar : List Char) (left value : Nat) (half : Option Nat)
  | secondHalf (soFar : List Char) (half : Nat) (backslash : Bool)

def isBlank (c : Char) : Bool := c == ' ' || c == '\n' || c == '\t' || c == '\r'

def plainToken (s : List Char) : Option Token :=
  if s = "true".toList then some (.scalar (.bool true))
  else if s = "false".toList then some (.scalar (.bool false))
  else if s = "null".toList then some (.scalar .null)
  else (readNumber s).map (fun n => .scalar (.number n))

def hexValue? (c : Char) : Option Nat :=
  if isDigit c then some (c.toNat - 48)
  else if 'a' ≤ c ∧ c ≤ 'f' then some (c.toNat - 87)
  else if 'A' ≤ c ∧ c ≤ 'F' then some (c.toNat - 55)
  else none

def startToken (c : Char) : Option (List Token × Position) :=
  match c with
  | '[' => some ([.openArray], .between)
  | ']' => some ([.closeArray], .between)
  | ',' => some ([.comma], .between)
  | ':' => some ([.colon], .between)
  | '"' => some ([], .quotes [])
  | c =>
    if c = '\x7b' then some ([.openObject], .between)
    else if c = '\x7d' then some ([.closeObject], .between)
    else if isBlank c then some ([], .between)
    else if c.isAlphanum || c == '-' || c == '+' || c == '.' then some ([], .plain [c])
    else none

def escapePosition (soFar : List Char) (c : Char) : Option Position :=
  match c with
  | '"' => some (.quotes ('"' :: soFar))
  | '\\' => some (.quotes ('\\' :: soFar))
  | '/' => some (.quotes ('/' :: soFar))
  | 'b' => some (.quotes (Char.ofNat 8 :: soFar))
  | 'f' => some (.quotes (Char.ofNat 12 :: soFar))
  | 'n' => some (.quotes ('\n' :: soFar))
  | 'r' => some (.quotes ('\r' :: soFar))
  | 't' => some (.quotes ('\t' :: soFar))
  | 'u' => some (.hex soFar 4 0 none)
  | _ => none

def unitPosition (soFar : List Char) (unit : Nat) (half : Option Nat) : Option Position :=
  match half with
  | some high =>
    if 0xDC00 ≤ unit ∧ unit ≤ 0xDFFF then
      some (.quotes (Char.ofNat (0x10000 + (high - 0xD800) * 0x400 + (unit - 0xDC00)) :: soFar))
    else none
  | none =>
    if 0xD800 ≤ unit ∧ unit ≤ 0xDBFF then some (.secondHalf soFar unit false)
    else if 0xDC00 ≤ unit ∧ unit ≤ 0xDFFF then none
    else some (.quotes (Char.ofNat unit :: soFar))

def stepToken (position : Position) (c : Char) : Option (List Token × Position) :=
  match position with
  | .between => startToken c
  | .plain soFar =>
    if c.isAlphanum || c == '-' || c == '+' || c == '.' then some ([], .plain (c :: soFar))
    else match plainToken soFar.reverse, startToken c with
      | some token, some (tokens, next) => some (token :: tokens, next)
      | _, _ => none
  | .quotes soFar =>
    if c = '"' then some ([.text (String.ofList soFar.reverse)], .between)
    else if c = '\\' then some ([], .escape soFar)
    else if c.toNat < 32 then none
    else some ([], .quotes (c :: soFar))
  | .escape soFar => (escapePosition soFar c).map ([], ·)
  | .hex soFar left value half =>
    match hexValue? c with
    | none => none
    | some digit =>
      if left ≤ 1 then (unitPosition soFar (value * 16 + digit) half).map ([], ·)
      else some ([], .hex soFar (left - 1) (value * 16 + digit) half)
  | .secondHalf soFar half backslash =>
    if !backslash then if c = '\\' then some ([], .secondHalf soFar half true) else none
    else if c = 'u' then some ([], .hex soFar 4 0 (some half))
    else none

/-- The tokens found so far, last first, and where the walk stands. -/
structure Scan where
  found : List Token
  position : Position

def Scan.step (scan : Scan) (c : Char) : Option Scan :=
  (stepToken scan.position c).map fun (tokens, next) => ⟨tokens.reverse ++ scan.found, next⟩

def Scan.finish (scan : Scan) : Option (List Token) :=
  match scan.position with
  | .between => some scan.found.reverse
  | .plain soFar => (plainToken soFar.reverse).map fun token => (token :: scan.found).reverse
  | _ => none

def tokens (s : String) : Option (List Token) :=
  (s.toList.foldlM Scan.step ⟨[], .between⟩).bind Scan.finish

/-! ### Values -/

inductive OpenContainer
  | array (elements : List Json)
  | object (members : List (String × Json)) (name : String)

inductive Expected
  | value
  | valueOrClose
  | name
  | nameOrClose
  | colon
  | commaOrClose
  | finish

/-- The reading of a value so far: open containers, innermost first, and the finished value. -/
structure Assembly where
  stack : List OpenContainer
  expected : Expected
  result : Json

def Assembly.supply (stack : List OpenContainer) (value : Json) : Assembly :=
  match stack with
  | [] => ⟨[], .finish, value⟩
  | .array elements :: rest => ⟨.array (value :: elements) :: rest, .commaOrClose, .null⟩
  | .object members name :: rest =>
    ⟨.object ((name, value) :: members) "" :: rest, .commaOrClose, .null⟩

def Assembly.step (a : Assembly) (token : Token) : Option Assembly :=
  let closeArray := match a.stack with
    | .array elements :: rest => some (Assembly.supply rest (.array elements.reverse))
    | _ => none
  let closeObject := match a.stack with
    | .object members _ :: rest => some (Assembly.supply rest (.object members.reverse))
    | _ => none
  let beginValue := match token with
    | .openArray =>
      if a.stack.length < nestingLimit then some ⟨.array [] :: a.stack, .valueOrClose, .null⟩
      else none
    | .openObject =>
      if a.stack.length < nestingLimit then some ⟨.object [] "" :: a.stack, .nameOrClose, .null⟩
      else none
    | .text s => some (Assembly.supply a.stack (.string s))
    | .scalar value => some (Assembly.supply a.stack value)
    | _ => none
  match a.expected, token with
  | .value, _ => beginValue
  | .valueOrClose, .closeArray => closeArray
  | .valueOrClose, _ => beginValue
  | .nameOrClose, .closeObject => closeObject
  | .nameOrClose, .text s | .name, .text s =>
    match a.stack with
    | .object members _ :: rest => some ⟨.object members s :: rest, .colon, .null⟩
    | _ => none
  | .colon, .colon => some { a with expected := .value }
  | .commaOrClose, .comma =>
    match a.stack with
    | .array _ :: _ => some { a with expected := .value }
    | .object _ _ :: _ => some { a with expected := .name }
    | [] => none
  | .commaOrClose, .closeArray => closeArray
  | .commaOrClose, .closeObject => closeObject
  | _, _ => none

def assemble (tokens : List Token) : Option Json :=
  match tokens.foldlM Assembly.step ⟨[], .value, .null⟩ with
  | some ⟨_, .finish, value⟩ => some value
  | _ => none

mutual

/-- Members listed by name, the last of each name. -/
def normalize : Json → Json
  | .array elements => .array (normalizeElements elements)
  | .object members => .object (Table.ofList (normalizeMembers members))
  | value => value

def normalizeElements : List Json → List Json
  | [] => []
  | x :: rest => normalize x :: normalizeElements rest

def normalizeMembers : List (String × Json) → List (String × Json)
  | [] => []
  | (name, x) :: rest => (name, normalize x) :: normalizeMembers rest

end

def readRaw (s : String) : Option Json := (tokens s).bind assemble

def read (s : String) : Option Json := (readRaw s).map normalize

end MockApi.Json
