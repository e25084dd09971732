import MockApi.Text.Parts

/-!
# Internet addresses

Reading addresses of version 4, four numbers between points, and of version 6, eight groups of
hexadecimal digits between colons, of which a run may be left out and the last two may be written as an
address of version 4. `Address.text` writes an address in its shortest form.
-/

namespace MockApi

/-- An address: four bytes, or eight groups of 16 bits. -/
inductive Address
  | v4 (bytes : List Nat)
  | v6 (groups : List Nat)
deriving DecidableEq

namespace Address

def readByte (s : List Char) : Option (Nat × List Char) :=
  let digits := s.takeWhile Char.isDigit
  let n : Nat := digits.foldl (fun n c => n * 10 + (c.toNat - 48)) 0
  if digits.isEmpty || decide (3 < digits.length) || decide (255 < n) ||
      (decide (1 < digits.length) && digits.head? == some '0') then none
  else some (n, s.dropWhile Char.isDigit)

def readPointByte : List Char → Option (Nat × List Char)
  | '.' :: rest => readByte rest
  | _ => none

def readV4 (s : List Char) : Option (List Nat × List Char) := do
  let (a, s) ← readByte s
  let (b, s) ← readPointByte s
  let (c, s) ← readPointByte s
  let (d, s) ← readPointByte s
  return ([a, b, c, d], s)

def hexDigit? (c : Char) : Option Nat :=
  if '0' ≤ c ∧ c ≤ '9' then some (c.toNat - 48)
  else if 'a' ≤ c ∧ c ≤ 'f' then some (c.toNat - 87)
  else if 'A' ≤ c ∧ c ≤ 'F' then some (c.toNat - 55)
  else none

def isHexDigit (c : Char) : Bool := (hexDigit? c).isSome

def readGroup (s : List Char) : Option (Nat × List Char) :=
  let digits := s.takeWhile isHexDigit
  if digits.isEmpty || decide (4 < digits.length) then none
  else some (digits.foldl (fun n c => n * 16 + (hexDigit? c).getD 0) 0, s.dropWhile isHexDigit)

def readColon (first : Bool) (s : List Char) : Option (List Char) :=
  if first then some s
  else match s with
    | ':' :: rest => some rest
    | _ => none

/-- At most `room` groups, of which the last two may be an address of version 4; whether they are. -/
def readGroups (first : Bool) : Nat → List Char → List Nat × Bool × List Char
  | 0, s => ([], false, s)
  | room + 1, s =>
    match readColon first s with
    | none => ([], false, s)
    | some rest =>
      match if room = 0 then none else readV4 rest with
      | some ([a, b, c, d], rest) => ([a * 256 + b, c * 256 + d], true, rest)
      | _ =>
        match readGroup rest with
        | none => ([], false, s)
        | some (group, rest) =>
          let (groups, short, rest) := readGroups false room rest
          (group :: groups, short, rest)

def readV6 (s : List Char) : Option (List Nat × List Char) :=
  let (head, short, rest) := readGroups true 8 s
  if head.length = 8 then some (head, rest)
  else if short then none
  else match rest with
    | ':' :: ':' :: rest =>
      let (tail, _, rest) := readGroups true (7 - head.length) rest
      some (head ++ List.replicate (8 - head.length - tail.length) 0 ++ tail, rest)
    | _ => none

def isV4 (s : String) : Bool :=
  decide (s.utf8ByteSize ≤ 15) && (readV4 s.toList).any (·.2.isEmpty)

def isV6 (s : String) : Bool := (readV6 s.toList).any (·.2.isEmpty)

def ofString? (s : String) : Option Address :=
  match readV4 s.toList with
  | some (bytes, []) => some (.v4 bytes)
  | _ => match readV6 s.toList with
    | some (groups, []) => some (.v6 groups)
    | _ => none

def hexText (n : Nat) : String := String.ofList (Nat.toDigits 16 n)

def zeroRun (groups : List Nat) : Nat := (groups.takeWhile (· == 0)).length

def longestZeros : Nat → List Nat → Nat × Nat
  | _, [] => (0, 0)
  | start, g :: rest =>
    let here := zeroRun (g :: rest)
    let later := longestZeros (start + 1) rest
    if later.2 ≤ here then (start, here) else later

/-- The address in its shortest form: of several equal runs of zeros the first is left out, and a single
zero is not. -/
def text : Address → String
  | v4 bytes => Text.joinWith "." (bytes.map toString)
  | v6 groups =>
    match groups with
    | [0, 0, 0, 0, 0, 0xffff, a, b] =>
      "::ffff:" ++ Text.joinWith "." ([a / 256, a % 256, b / 256, b % 256].map toString)
    | groups =>
      let (start, count) := longestZeros 0 groups
      let part (gs : List Nat) := Text.joinWith ":" (gs.map hexText)
      if count < 2 then part groups
      else part (groups.take start) ++ "::" ++ part (groups.drop (start + count))

def withPort (a : Address) (port : Nat) : String :=
  match a with
  | v4 _ => a.text ++ ":" ++ toString port
  | v6 _ => "[" ++ a.text ++ "]:" ++ toString port

end Address

end MockApi
