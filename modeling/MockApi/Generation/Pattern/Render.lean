import MockApi.Generation.Pattern
import MockApi.Random
import MockApi.Regex.Parser

/-!
# Texts from a pattern

One alternative of a pattern is drawn and rendered piece by piece. The length is then steered: the last
unbounded piece grows towards a target, and repetitions beyond the least number are dropped from the
end. Texts that do not match the pattern or have a wrong length are drawn again a few times.
-/

namespace MockApi.Generation.Pattern

variable {σ : Type} [Source σ]

/-! ### Rendering -/

mutual

def renderAtom : Atom → Draw σ (List Char)
  | .literal c => pure [c]
  | .class [] => pure []
  | .class (first :: rest) => do return [← Draw.oneOf first rest]
  | .group [] => pure []
  | .group (first :: rest) => do
    let branch ← Draw.oneOf (renderPieces first) (renderBranches rest)
    branch

def renderBranches : List (List (Piece Atom)) → List (Draw σ (List Char))
  | [] => []
  | pieces :: rest => renderPieces pieces :: renderBranches rest

def renderPieces : List (Piece Atom) → Draw σ (List Char)
  | [] => pure []
  | ⟨atom, min, max, _⟩ :: rest => do
    let copies ← Draw.times (← Draw.shortBetween min max) (renderAtom atom)
    return copies.flatten ++ (← renderPieces rest)

end

def drawCopies : List (Piece Atom) → Draw σ (List (List (List Char)))
  | [] => pure []
  | piece :: rest => do
    let copies ← Draw.times (← Draw.shortBetween piece.min piece.max) (renderAtom piece.atom)
    return copies :: (← drawCopies rest)

/-! ### Steering the length -/

def totalLength (copies : List (List (List Char))) : Nat := copies.flatten.flatten.length

/-- More copies of an atom until they have `missing` characters, or one has none. -/
def extraCopies (atom : Atom) : Nat → Nat → Draw σ (List (List Char))
  | _, 0 => pure []
  | 0, _ + 1 => pure []
  | fuel + 1, missing + 1 => do
    let copy ← renderAtom atom
    if copy.isEmpty then return []
    return copy :: (← extraCopies atom fuel (missing + 1 - copy.length))

def lastUnbounded? : List (Piece Atom) → Option Nat
  | [] => none
  | piece :: rest =>
    ((lastUnbounded? rest).map (· + 1)).or (if piece.unbounded then some 0 else none)

/-- More copies of the last unbounded piece, towards a length that is drawn. -/
def grow (min max : Nat) (pieces : List (Piece Atom)) (copies : List (List (List Char))) :
    Draw σ (List (List (List Char))) := do
  let target ← Draw.natBetween min (Nat.min (Nat.max max min) (min + unboundedExtra))
  match lastUnbounded? pieces with
  | none => return copies
  | some i =>
    Draw.rely (.place i pieces.length)
    match pieces[i]? with
    | none => return copies
    | some piece =>
      let missing := target - totalLength copies
      let extra ← extraCopies piece.atom missing missing
      Draw.rely (.place i copies.length)
      return copies.modify i (· ++ extra)

/-- Copies, last first, without the `spare` last ones, or as many of those as bring the total length down
to `max`; and that length. -/
def dropCopies (max : Nat) : Nat → Nat → List (List Char) → Draw σ (List (List Char) × Nat)
  | 0, total, copies => pure (copies, total)
  | _ + 1, total, [] => pure ([], total)
  | spare + 1, total, copy :: copies =>
    if total ≤ max then pure (copy :: copies, total)
    else do dropCopies max spare (← Draw.minus total copy.length) copies

/-- Copies beyond the least number dropped from the end while the total length is more than `max`; and
the length that is left. -/
def trimEnd (max total : Nat) : List (Piece Atom × List (List Char)) →
    Draw σ (List (Piece Atom × List (List Char)) × Nat)
  | [] => pure ([], total)
  | (piece, copies) :: rest => do
    let (rest, total) ← trimEnd max total rest
    let (kept, total) ← dropCopies max (copies.length - piece.min) total copies.reverse
    return ((piece, kept.reverse) :: rest, total)

/-- Copies of each piece with their number steered so that they have `min` to `max` characters. -/
def steer (min max : Nat) (pieces : List (Piece Atom)) (copies : List (List (List Char))) :
    Draw σ (List (Piece Atom × List (List Char))) := do
  let grown ← if totalLength copies < min then grow min max pieces copies else pure copies
  return (← trimEnd max (totalLength grown) (pieces.zip grown)).1

def drawSteered (min max : Nat) (pieces : List (Piece Atom)) :
    Draw σ (List (Piece Atom × List (List Char))) := do
  steer min max pieces (← drawCopies pieces)

def textOf (copies : List (Piece Atom × List (List Char))) : List Char :=
  (copies.map fun piece => piece.2.flatten).flatten

def renderSized (min max : Nat) : List (List (Piece Atom)) → Draw σ (List Char)
  | [] => pure []
  | first :: rest => do
    let pieces ← Draw.oneOf first rest
    return textOf (← drawSteered min max pieces)

def attempts : Nat := 8

/-- Texts drawn until one is accepted; the last one in any case. -/
def renderUntil (accept : List Char → Bool) (render : Draw σ (List Char)) : Nat →
    Draw σ (List Char)
  | 0 => render
  | fuel + 1 => do
    let candidate ← render
    if accept candidate then pure candidate else renderUntil accept render fuel

def generate (pattern : String) (min max : Nat) : Draw σ String := do
  let expression := Regex.ofString? pattern
  let accept (s : List Char) : Bool :=
    expression.all (·.isMatch (String.ofList s)) && decide (min ≤ s.length) &&
      decide (s.length ≤ max)
  return String.ofList
    (← renderUntil accept (renderSized min max (parse pattern)) (attempts - 1))

end MockApi.Generation.Pattern
