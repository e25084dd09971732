import MockApi.Random

/-!
# Faults of generation

The two ways in which a schema keeps a value from being generated.
-/

namespace MockApi.Generation

inductive Fault
  | danglingReference (pointer : String)
  | unholdableText (length : Nat)
deriving DecidableEq

/-- A computation that draws and may fail. What was drawn before a failure stays drawn. -/
abbrev Generate (σ : Type) := ExceptT Fault (Draw σ)

def drawn {σ α : Type} (draw : Draw σ α) : Generate σ α := ExceptT.lift draw

/-- The first length that no text can have. -/
def textCapacity : Nat := 2 ^ 63

/-- The first length that no filler text can have: room for one more word is kept behind its end. -/
def unholdableLength : Nat := 2 ^ 63 - 16

def holdBelow {σ : Type} (limit length : Nat) : Generate σ Unit :=
  if limit ≤ length then throw (.unholdableText length) else pure ()

def holdLength {σ : Type} (length : Nat) : Generate σ Unit := holdBelow unholdableLength length

end MockApi.Generation
