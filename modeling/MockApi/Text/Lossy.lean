import MockApi.Power

/-!
# Text from arbitrary bytes

Bytes that are not UTF-8 are read with replacement characters: one for each longest run that could start
a character but does not make one.
-/

namespace MockApi.Text

/-- What a first byte of several asks for: how many bytes follow, and the range of the second. -/
def leadByte? (b : Nat) : Option (Nat × Nat × Nat) :=
  if 0xC2 ≤ b ∧ b ≤ 0xDF then some (1, 0x80, 0xBF)
  else if b = 0xE0 then some (2, 0xA0, 0xBF)
  else if b = 0xED then some (2, 0x80, 0x9F)
  else if 0xE1 ≤ b ∧ b ≤ 0xEF then some (2, 0x80, 0xBF)
  else if b = 0xF0 then some (3, 0x90, 0xBF)
  else if 0xF1 ≤ b ∧ b ≤ 0xF3 then some (3, 0x80, 0xBF)
  else if b = 0xF4 then some (3, 0x80, 0x8F)
  else none

/-- A character that is not complete: how many bytes are missing, the range of the next, and the value
so far. -/
structure Partial where
  missing : Nat
  low : Nat
  high : Nat
  value : Nat

def leadBits (b following : Nat) : Nat := b % 2 ^ (6 - following)

def replacement : Char := Char.ofNat 0xFFFD

def startChar (b : Nat) : List Char × Option Partial :=
  if b < 0x80 then ([Char.ofNat b], none)
  else match leadByte? b with
    | some (following, low, high) => ([], some ⟨following, low, high, leadBits b following⟩)
    | none => ([replacement], none)

def lossyFrom : Option Partial → List UInt8 → List Char
  | none, [] => []
  | some _, [] => [replacement]
  | none, b :: rest =>
    let (chars, state) := startChar b.toNat
    chars ++ lossyFrom state rest
  | some p, b :: rest =>
    if p.low ≤ b.toNat ∧ b.toNat ≤ p.high then
      let value := p.value * 64 + b.toNat % 64
      if p.missing ≤ 1 then Char.ofNat value :: lossyFrom none rest
      else lossyFrom (some ⟨p.missing - 1, 0x80, 0xBF, value⟩) rest
    else
      let (chars, state) := startChar b.toNat
      replacement :: chars ++ lossyFrom state rest

def lossy (bytes : List UInt8) : String := String.ofList (lossyFrom none bytes)

end MockApi.Text
