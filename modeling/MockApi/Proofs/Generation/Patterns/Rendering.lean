import MockApi.Generation.Pattern.Render
import Mathlib.Data.List.Forall2

/-!
# What is rendered from a pattern

Texts of an atom and of a sequence of pieces: each piece is repeated as often as its bounds allow, and every copy is a
text of its atom. Copies may be added to an unbounded piece, and those that are not needed may be dropped.
-/

namespace MockApi.Generation.Pattern

/-- A number of copies that the bounds of a piece allow. -/
structure Piece.Counts {α : Type} (piece : Piece α) (count : Nat) : Prop where
  least : piece.min ≤ count
  most : piece.unbounded = false → count ≤ piece.max

mutual

/-- Texts of an atom. A class or a group without members has the empty text. -/
inductive Atom.Renders : Atom → List Char → Prop
  | literal (c : Char) : Atom.Renders (.literal c) [c]
  | among {members : List Char} {c : Char} (mem : c ∈ members) : Atom.Renders (.class members) [c]
  | amongNone : Atom.Renders (.class []) []
  | group {alternatives : List (List (Piece Atom))} {pieces : List (Piece Atom)} {s : List Char}
      (mem : pieces ∈ alternatives) (rendered : Rendered pieces s) : Atom.Renders (.group alternatives) s
  | groupNone : Atom.Renders (.group []) []

/-- `Rendered pieces s` says that `s` consists of copies of each piece. -/
inductive Rendered : List (Piece Atom) → List Char → Prop
  | nil : Rendered [] []
  | cons {piece : Piece Atom} {pieces : List (Piece Atom)} {copies : List (List Char)} {s : List Char}
      (counts : piece.Counts copies.length) (each : ∀ copy ∈ copies, Atom.Renders piece.atom copy)
      (rest : Rendered pieces s) : Rendered (piece :: pieces) (copies.flatten ++ s)

end

structure Piece.Repeats (piece : Piece Atom) (copies : List (List Char)) : Prop where
  counts : piece.Counts copies.length
  each : ∀ copy ∈ copies, piece.atom.Renders copy

theorem rendered_textOf {paired : List (Piece Atom × List (List Char))}
    (repeats : ∀ entry ∈ paired, entry.1.Repeats entry.2) : Rendered (paired.map (·.1)) (textOf paired) := by
  induction paired with
  | nil => exact .nil
  | cons entry paired ih =>
    obtain ⟨first, others⟩ := List.forall_mem_cons.mp repeats
    exact .cons first.counts first.each (ih others)

/-! ### More copies and fewer -/

variable {piece : Piece Atom} {copies extra kept : List (List Char)}

/-- An unbounded piece may be repeated more often. -/
theorem Piece.Repeats.grow (repeats : piece.Repeats copies)
    (unbounded : piece.unbounded = true) (each : ∀ copy ∈ extra, piece.atom.Renders copy) :
    piece.Repeats (copies ++ extra) where
  counts := {
    least := List.length_append ▸ Nat.le_add_right_of_le repeats.counts.least
    most := fun bounded => nomatch unbounded.symm.trans bounded }
  each := List.forall_mem_append.mpr ⟨repeats.each, each⟩

theorem forall₂_modify {α β : Type} {R : α → β → Prop} {as : List α} {bs : List β} {f : β → β} {i : Nat}
    (related : List.Forall₂ R as bs) (inside : i < as.length) (step : ∀ b, R as[i] b → R as[i] (f b)) :
    List.Forall₂ R as (bs.modify i f) := by
  induction related generalizing i with
  | nil => cases inside
  | cons first rest ih =>
    cases i with
    | zero => exact .cons (step _ first) rest
    | succ i => exact .cons first (ih (Nat.lt_of_succ_lt_succ inside) step)

/-- Fewer copies still are enough, as long as there are the least number of them. -/
theorem Piece.Repeats.drop (repeats : piece.Repeats copies)
    (inside : kept <:+ copies.reverse) (least : copies.length - (copies.length - piece.min) ≤ kept.length) :
    piece.Repeats kept.reverse where
  counts := {
    least := by
      have enough := repeats.counts.least
      rw [List.length_reverse]
      omega
    most := fun bounded => by
      have fewer := inside.length_le
      rw [List.length_reverse] at fewer ⊢
      exact Nat.le_trans fewer (repeats.counts.most bounded) }
  each := fun copy mem => repeats.each copy (List.mem_reverse.mp (inside.subset (List.mem_reverse.mp mem)))

end MockApi.Generation.Pattern
