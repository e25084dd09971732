import MockApi.Calendar
import MockApi.Generation.Fault
import MockApi.Text.Parts

/-!
# Texts of a format

A text for each format that the `format` keyword may name. Identifiers, addresses and moments have a
fixed form; mail addresses, hosts, links and phone numbers are taken from `Samples`. Where a length is
asked for, texts are drawn again a few times, and after that a mail address, a host or a password is
built to size (`sizedFormatText`).
-/

namespace MockApi.Generation

structure Samples (σ : Type) where
  mail : Draw σ String
  host : Draw σ String
  link : Draw σ String
  phone : Draw σ String

variable {σ : Type} [Source σ]

/-! ### Fixed forms -/

def hexByte (b : Nat) : String :=
  String.ofList [Nat.digitChar (b / 16), Nat.digitChar (b % 16)]

def uuidOfBytes (bytes : List Nat) : String :=
  let digits (first count : Nat) : String :=
    Text.joinWith "" (((bytes.set 6 (bytes.getD 6 0 % 16 + 64)).set 8
      (bytes.getD 8 0 % 64 + 128)).drop first |>.take count |>.map hexByte)
  Text.joinWith "-" [digits 0 4, digits 4 2, digits 6 2, digits 8 2, digits 10 6]

def uuidText : Draw σ String := do
  return uuidOfBytes ((← Draw.times 16 Draw.byte).map UInt8.toNat)

def v4Text : Draw σ String := do
  return Text.joinWith "." ((← Draw.times 4 Draw.byte).map fun b => toString b.toNat)

def upperHex (n : Nat) : String := String.ofList ((Nat.toDigits 16 n).map Char.toUpper)

def v6Text : Draw σ String := do
  return Text.joinWith ":" ((← Draw.times 8 Draw.short).map fun n => upperHex n.toNat)

def passwordText (length : Nat) : Draw σ String := do
  return String.ofList (← Draw.times length Draw.alphanumeric)

def yearSeconds : Nat := 365 * 24 * 3600

def recentInstant (now : Instant) : Draw σ Instant := do
  return now.earlier (← Draw.natBetween 0 (yearSeconds - 1))

/-- The draw for a format; `none` where there is none. The name may be written in any case. -/
def formatText (samples : Samples σ) (now : Instant) (format : String) : Option (Draw σ String) :=
  match Text.lowerAscii format with
  | "uuid" => some uuidText
  | "email" | "idn-email" => some samples.mail
  | "date-time" => some do return (← recentInstant now).secondText
  | "date" => some do return (← recentInstant now).dateText
  | "time" => some do return (← recentInstant now).timeText
  | "uri" | "url" | "uri-reference" | "iri" => some samples.link
  | "hostname" | "idn-hostname" => some samples.host
  | "ipv4" => some v4Text
  | "ipv6" => some v6Text
  | "phone" => some samples.phone
  | "password" => some (passwordText 12)
  | _ => none

/-! ### Built to size -/

def label (length : Nat) : Draw σ String := do
  return String.ofList (← Draw.times length Draw.letter)

def builtHost (length : Nat) : Draw σ String := do
  let lastLength := if 6 ≤ length then 3 else 1
  let first ← label (← Draw.minus (← Draw.minus length 1) lastLength)
  return first ++ "." ++ (← label lastLength)

def builtMail (length : Nat) : Draw σ String := do
  let room ← Draw.minus length 1
  let hostLength := Nat.max (room / 2) 3
  let part ← label (← Draw.minus room hostLength)
  return part ++ "@" ++ (← builtHost hostLength)

/-- The formats that can be built to size: the least length, and the text of a length. -/
def builder? (format : String) : Option (Nat × (Nat → Draw σ String)) :=
  match Text.lowerAscii format with
  | "email" | "idn-email" => some (5, builtMail)
  | "hostname" | "idn-hostname" => some (3, builtHost)
  | "password" => some (0, passwordText)
  | _ => none

def drawFitting (min max : Nat) (draw : Draw σ String) : Nat → Draw σ (Option String)
  | 0 => pure none
  | fuel + 1 => do
    let text ← draw
    if min ≤ text.length ∧ text.length ≤ max then return some text
    drawFitting min max draw fuel

def formatAttempts : Nat := 8

def builtSlack : Nat := 16

/-- The length for a text built to size; `none` if no length fits. -/
def builtLength (floor min max : Nat) : Draw σ (Option Nat) :=
  let least := Nat.max min floor
  let most := Nat.min max (least + builtSlack)
  if most < least then pure none else do return some (← Draw.natBetween least most)

/-- A text of a format with `min` to `max` characters; `none` if the format has no draw or cannot
fit. -/
def sizedFormatText (samples : Samples σ) (now : Instant) (format : String) (min max : Nat) :
    Generate σ (Option String) :=
  match formatText samples now format with
  | none => pure none
  | some draw => do
    match ← drawn (drawFitting min max draw formatAttempts) with
    | some text => return some text
    | none => match builder? format with
      | none => return none
      | some (floor, build) =>
        match ← drawn (builtLength floor min max) with
        | none => return none
        | some length =>
          holdBelow textCapacity length
          return some (← drawn (build length))

end MockApi.Generation
