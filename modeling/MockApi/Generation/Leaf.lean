import MockApi.Generation.Format
import MockApi.Generation.Number
import MockApi.Generation.Pattern.Render
import MockApi.Generation.Text

/-!
# Leaves

Values of one kind, for a node whose kind is settled. A text comes from the format if that has a text
that fits, else from the pattern, else it is filler. Objects and arrays are empty here.
-/

namespace MockApi.Generation

open Schema

variable {σ : Type} [Source σ]

/-- What values are drawn from besides the source: sample texts and the present moment. -/
structure Setting (σ : Type) where
  samples : Samples σ
  now : Instant

def fillerDraw (k : Keywords) : Generate σ String := do
  let (min, max) := lengthBounds k
  let length ← drawn (Draw.natBetween min max)
  holdLength length
  drawn (fillerText length)

def formatDraw (setting : Setting σ) (k : Keywords) : Generate σ (Option String) :=
  let (min, max) := statedLength k
  match k.format with
  | none => pure none
  | some format => sizedFormatText setting.samples setting.now format min max

def stringDraw (setting : Setting σ) (k : Keywords) : Generate σ String := do
  match ← formatDraw setting k with
  | some text => return text
  | none => match k.pattern with
    | some pattern =>
      let (min, max) := statedLength k
      drawn (Pattern.generate pattern min max)
    | none => fillerDraw k

def half : Binary64 := Binary64.ofRatio false Binary64.unitsPerOne 2

def leafDraw (setting : Setting σ) (kind : Kind) (k : Keywords) : Generate σ Json :=
  match kind with
  | .string => do return .string (← stringDraw setting k)
  | .number => drawn (numberDraw k)
  | .integer => drawn (integerDraw k)
  | .boolean => do return .bool (← drawn (Draw.chance half))
  | .object => pure (.object [])
  | .array => pure (.array [])
  | .null => pure .null

end MockApi.Generation
