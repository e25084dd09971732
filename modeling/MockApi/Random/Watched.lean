import MockApi.Random

/-!
# A watched source

A source that gives the words of another one and notes every demand that it is told of.
-/

namespace MockApi

/-- The last demand stands first. -/
structure Watched (σ : Type) where
  source : σ
  relied : List Demand := []

instance {σ : Type} [Source σ] : Source (Watched σ) where
  next32 w := ((Source.next32 w.source).1, { w with source := (Source.next32 w.source).2 })
  next64 w := ((Source.next64 w.source).1, { w with source := (Source.next64 w.source).2 })
  watch demand w := ⟨Source.watch demand w.source, demand :: w.relied⟩

/-- A demand is noted whether it is met or not. -/
example {σ : Type} [Source σ] (w : Watched σ) : (Draw.minus 2 3 w).2.relied = .difference 2 3 :: w.relied :=
  rfl

end MockApi
