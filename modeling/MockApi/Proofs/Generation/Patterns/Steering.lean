import MockApi.Proofs.Generation.Keeping.Patterns
import MockApi.Random.Script

/-!
# Lengths that are steered

How often each piece of an alternative stands in a text once its length has been steered. No piece is left with fewer
copies than it needs, and only an unbounded one has more than its bounds allow. A text that is still too long has no
copy to spare (`trimEnd_gives`). Where every copy is one character, an unbounded piece grows to the very length that is
drawn (`grow_gives`), and the text ends in range (`renderSized_steered`).
-/

namespace MockApi

namespace Draw

variable {σ α : Type} {draw : Draw σ α} {P Q : α → Prop}

theorem Gives.and (first : draw.Gives P) (second : draw.Gives Q) : draw.Gives fun value => P value ∧ Q value :=
  fun source => ⟨first source, second source⟩

variable [Source σ]

theorem Keeps.gives_of_none (keeps : draw.Keeps .none P) : draw.Gives P := fun source => (keeps source trivial).1

/-- A range that is the wrong way round gives its lower end. -/
theorem shortBetween_least (lo hi : Nat) :
    (shortBetween lo hi : Draw σ Nat).Gives fun n => lo ≤ n ∧ (lo ≤ hi → n ≤ hi) := by
  have below : (below32 (hi - lo + 1) : Draw σ Nat).Gives (· < hi - lo + 1) := below32_lt (Nat.succ_pos _)
  refine (gives_any _).bind fun _ _ => below.bind fun n small => gives_pure ?_
  omega

end Draw

namespace Generation.Pattern

variable {σ : Type} [Source σ] {pieces : List (Piece Atom)} {copies : List (List Char)}

/-! ### Copies of a piece -/

/-- The texts of the atom are single characters. -/
def Atom.IsCharacter : Atom → Prop
  | .literal _ => True
  | .class members => members ≠ []
  | .group _ => False

/-- Copies in a number that the bounds of a piece allow. -/
structure Piece.Copied (piece : Piece Atom) (copies : List (List Char)) : Prop where
  least : piece.min ≤ copies.length
  most : piece.unbounded = false → piece.min ≤ piece.max → copies.length ≤ piece.max
  single : piece.atom.IsCharacter → ∀ copy ∈ copies, copy.length = 1

theorem renderAtom_gives {atom : Atom} (character : atom.IsCharacter) :
    (renderAtom atom : Draw σ (List Char)).Gives (·.length = 1) := by
  cases atom with
  | literal c => exact Draw.gives_pure rfl
  | «class» members =>
    cases members with
    | nil => exact absurd rfl character
    | cons first rest => exact (Draw.gives_any _).bind fun c _ => Draw.gives_pure rfl
  | group alternatives => cases character

theorem length_flatten_of_single (single : ∀ copy ∈ copies, copy.length = 1) :
    copies.flatten.length = copies.length := by
  induction copies with
  | nil => rfl
  | cons copy copies ih =>
    obtain ⟨first, others⟩ := List.forall_mem_cons.mp single
    rw [List.flatten_cons, List.length_append, first, ih others, List.length_cons, Nat.add_comm]

theorem times_renderAtom_gives (atom : Atom) (count : Nat) :
    (Draw.times count (renderAtom atom) : Draw σ _).Gives fun copies =>
      copies.length = count ∧ (atom.IsCharacter → ∀ copy ∈ copies, copy.length = 1) := by
  by_cases character : atom.IsCharacter
  · refine (Draw.times_gives (renderAtom_gives character) count).mono fun copies held => ?_
    exact ⟨held.1, fun _ => held.2⟩
  · refine (Draw.times_gives (Draw.gives_any _) count).mono fun copies held => ?_
    exact ⟨held.1, fun other => absurd other character⟩

theorem drawCopies_gives (pieces : List (Piece Atom)) :
    (drawCopies pieces : Draw σ _).Gives (List.Forall₂ Piece.Copied pieces) := by
  induction pieces with
  | nil => exact Draw.gives_pure .nil
  | cons piece rest ih =>
    refine (Draw.shortBetween_least _ _).bind fun count within => ?_
    refine (times_renderAtom_gives piece.atom count).bind fun copies held => ?_
    refine ih.bind fun others copied => Draw.gives_pure (.cons ?_ copied)
    obtain ⟨same, single⟩ := held
    subst same
    exact ⟨within.1, fun _ => within.2, single⟩

/-! ### The last unbounded piece grows -/

theorem lastUnbounded?_isSome (unbounded : ∃ piece ∈ pieces, piece.unbounded = true) :
    ∃ i, lastUnbounded? pieces = some i := by
  induction pieces with
  | nil => simp at unbounded
  | cons piece rest ih =>
    rw [lastUnbounded?]
    cases later : lastUnbounded? rest with
    | some i => exact ⟨i + 1, rfl⟩
    | none =>
      have here : piece.unbounded = true := by
        obtain ⟨other, mem, other_unbounded⟩ := unbounded
        rcases List.mem_cons.mp mem with rfl | mem
        · exact other_unbounded
        · obtain ⟨i, found⟩ := ih ⟨other, mem, other_unbounded⟩
          rw [later] at found
          cases found
      exact ⟨0, by simp [here]⟩

/-- A piece of single characters gets one copy for each character that is missing. -/
theorem extraCopies_gives {atom : Atom} {fuel missing : Nat} (enough : missing ≤ fuel) :
    (extraCopies atom fuel missing : Draw σ _).Gives fun extra =>
      atom.IsCharacter → extra.length = missing ∧ ∀ copy ∈ extra, copy.length = 1 := by
  by_cases character : atom.IsCharacter
  · refine Draw.Gives.mono (P := fun extra => extra.length = missing ∧ ∀ copy ∈ extra, copy.length = 1)
      ?_ fun _ held _ => held
    induction fuel generalizing missing with
    | zero =>
      obtain rfl := Nat.le_zero.mp enough
      exact Draw.gives_pure ⟨rfl, nofun⟩
    | succ fuel ih =>
      cases missing with
      | zero => exact Draw.gives_pure ⟨rfl, nofun⟩
      | succ missing =>
        refine (renderAtom_gives character).bind fun copy one => ?_
        have solid : copy.isEmpty = false := by cases copy <;> simp_all
        rw [solid, one]
        refine (ih (Nat.le_of_succ_le_succ enough)).bind fun extra held => Draw.gives_pure ?_
        exact ⟨congrArg (· + 1) held.1, List.forall_mem_cons.mpr ⟨one, held.2⟩⟩
  · exact (Draw.gives_any _).mono fun _ _ other => absurd other character

theorem totalLength_modify {all : List (List (List Char))} {i : Nat} (inside : i < all.length)
    (extra : List (List Char)) :
    totalLength (all.modify i (· ++ extra)) = totalLength all + extra.flatten.length := by
  induction all generalizing i with
  | nil => cases inside
  | cons copies others ih =>
    cases i with
    | zero =>
      rw [List.modify_zero_cons, totalLength_cons, totalLength_cons, List.flatten_append, List.length_append]
      omega
    | succ i =>
      rw [List.modify_succ_cons, totalLength_cons, totalLength_cons, ih (Nat.lt_of_succ_lt_succ inside)]
      omega

/-- A text that is too short and has an unbounded piece of single characters grows to a length in range. -/
theorem grow_gives {min max : Nat} (ordered : min ≤ max) {all : List (List (List Char))}
    (short : totalLength all < min) (copied : List.Forall₂ Piece.Copied pieces all) :
    (grow min max pieces all : Draw σ _).Gives fun grown => List.Forall₂ Piece.Copied pieces grown ∧
      ((∀ piece ∈ pieces, piece.atom.IsCharacter) → (∃ piece ∈ pieces, piece.unbounded = true) →
        min ≤ totalLength grown ∧ totalLength grown ≤ max) := by
  have range : min ≤ Nat.min (Nat.max max min) (min + unboundedExtra) :=
    Nat.le_min_of_le_of_le (Nat.le_max_right _ _) (Nat.le_add_right _ _)
  have ceiling : Nat.min (Nat.max max min) (min + unboundedExtra) ≤ max :=
    Nat.le_trans (Nat.min_le_left _ _) (Nat.max_le.mpr ⟨Nat.le_refl _, ordered⟩)
  refine (Draw.natBetween_gives range).bind fun target within => ?_
  split
  · rename_i none
    refine Draw.gives_pure ⟨copied, fun _ unbounded => ?_⟩
    obtain ⟨i, found⟩ := lastUnbounded?_isSome unbounded
    cases none.symm.trans found
  · rename_i i found
    obtain ⟨inside, unbounded⟩ := exists_of_lastUnbounded? found
    refine (Draw.gives_any _).bind fun _ _ => ?_
    rw [List.getElem?_eq_getElem inside]
    refine (extraCopies_gives (Nat.le_refl _)).bind fun extra held => ?_
    refine (Draw.gives_any _).bind fun _ _ => Draw.gives_pure ⟨?_, fun characters _ => ?_⟩
    · refine forall₂_modify copied inside fun copies before => ⟨?_, fun bounded => ?_, fun character => ?_⟩
      · rw [List.length_append]
        exact Nat.le_add_right_of_le before.least
      · cases unbounded.symm.trans bounded
      · exact List.forall_mem_append.mpr ⟨before.single character, (held character).2⟩
    · obtain ⟨missing, single⟩ := held (characters _ (List.getElem_mem inside))
      rw [totalLength_modify (copied.length_eq ▸ inside), length_flatten_of_single single, missing]
      omega

/-! ### Copies are dropped from the end -/

/-- Copies are dropped while the total is too large and one can be spared. Of single characters no more are dropped
than that. -/
theorem dropCopies_gives (max spare total : Nat) (copies : List (List Char)) :
    (dropCopies max spare total copies : Draw σ _).Gives fun kept => kept.2 ≤ total ∧
      (max < kept.2 → kept.1.length = copies.length - spare) ∧
      ((∀ copy ∈ copies, copy.length = 1) → total ≤ kept.2 ∨ max ≤ kept.2) := by
  induction copies generalizing spare total with
  | nil => cases spare <;> exact Draw.gives_pure ⟨Nat.le_refl _, fun _ => by simp, fun _ => .inl (Nat.le_refl _)⟩
  | cons copy copies ih =>
    cases spare with
    | zero => exact Draw.gives_pure ⟨Nat.le_refl _, fun _ => rfl, fun _ => .inl (Nat.le_refl _)⟩
    | succ spare =>
      unfold dropCopies
      split
      · rename_i short
        exact Draw.gives_pure
          ⟨Nat.le_refl _, fun long => absurd short (Nat.not_le.mpr long), fun _ => .inl (Nat.le_refl _)⟩
      · rename_i long
        have less : (Draw.minus total copy.length : Draw σ Nat).Gives (· = total - copy.length) :=
          (Draw.gives_any _).bind fun _ _ => Draw.gives_pure rfl
        refine less.bind fun rest same => ?_
        subst same
        refine (ih spare _).mono fun kept held => ?_
        obtain ⟨fewer, tight, enough⟩ := held
        refine ⟨by omega, fun still => ?_, fun single => ?_⟩
        · rw [tight still, List.length_cons, Nat.succ_sub_succ]
        · obtain ⟨one, others⟩ := List.forall_mem_cons.mp single
          have left := enough others
          omega

/-- What is left of the copies of some pieces, and the total with the `others` beside them. -/
structure Trimmed (max others : Nat) (paired : List (Piece Atom × List (List Char)))
    (trimmed : List (Piece Atom × List (List Char)) × Nat) : Prop where
  same : trimmed.1.map (·.1) = paired.map (·.1)
  copied : ∀ entry ∈ trimmed.1, entry.1.Copied entry.2
  total : trimmed.2 = others + totalLength (trimmed.1.map (·.2))
  fewer : trimmed.2 ≤ others + totalLength (paired.map (·.2))
  tight : max < trimmed.2 → ∀ entry ∈ trimmed.1, entry.2.length = entry.1.min
  enough : (∀ entry ∈ paired, entry.1.atom.IsCharacter) →
    others + totalLength (paired.map (·.2)) ≤ trimmed.2 ∨ max ≤ trimmed.2

/-- The last copies of a piece are dropped; what stands behind it was trimmed before. -/
theorem Piece.Copied.drop {piece : Piece Atom} (copied : piece.Copied copies) {kept : List (List Char)}
    (inside : kept <:+ copies.reverse) (least : copies.length - (copies.length - piece.min) ≤ kept.length) :
    piece.Copied kept.reverse := by
  have enough := copied.least
  have fewer := inside.length_le
  rw [List.length_reverse] at fewer
  refine ⟨?_, fun bounded ordered => ?_, fun character copy mem => ?_⟩
  · rw [List.length_reverse]
    omega
  · have most := copied.most bounded ordered
    rw [List.length_reverse]
    omega
  · exact copied.single character copy (List.mem_reverse.mp (inside.subset (List.mem_reverse.mp mem)))

theorem trimEnd_gives (max others : Nat) {paired : List (Piece Atom × List (List Char))}
    (copied : ∀ entry ∈ paired, entry.1.Copied entry.2) :
    (trimEnd max (others + totalLength (paired.map (·.2))) paired : Draw σ _).Gives
      (Trimmed max others paired) := by
  induction paired generalizing others with
  | nil =>
    exact Draw.gives_pure ⟨rfl, nofun, rfl, Nat.le_refl _, fun _ => nofun, fun _ => .inl (Nat.le_refl _)⟩
  | cons entry paired ih =>
    obtain ⟨piece, copies⟩ := entry
    obtain ⟨first, behind⟩ := List.forall_mem_cons.mp copied
    have whole : totalLength (((piece, copies) :: paired).map (·.2)) =
        copies.flatten.length + totalLength (paired.map (·.2)) := totalLength_cons _ _
    rw [whole, ← Nat.add_assoc]
    refine (ih _ behind).bind fun trimmed held => ?_
    obtain ⟨rest, total⟩ := trimmed
    obtain ⟨same, each, left, fewer, tight, enough⟩ := held
    obtain rfl : total = others + copies.flatten.length + totalLength (rest.map (·.2)) := left
    dsimp only at fewer tight enough ⊢
    rw [Nat.add_right_comm others, ← length_flatten_reverse copies] at fewer tight enough ⊢
    have kept_total := (dropCopies_keeps (σ := σ) (I := .none) max (copies.length - piece.min)
      (others + totalLength (rest.map (·.2))) copies.reverse).gives_of_none
    refine (kept_total.and (dropCopies_gives max _ _ copies.reverse)).bind fun kept held => ?_
    obtain ⟨⟨left, inside, least⟩, less, full, spared⟩ := held
    rw [List.length_reverse] at least full
    have now : totalLength (((piece, kept.1.reverse) :: rest).map (·.2)) =
        kept.1.flatten.length + totalLength (rest.map (·.2)) := by
      rw [← length_flatten_reverse]
      exact totalLength_cons _ _
    refine Draw.gives_pure ⟨?_, ?_, ?_, ?_, fun long => ?_, fun characters => ?_⟩
    · rw [List.map_cons, same, List.map_cons]
    · exact List.forall_mem_cons.mpr ⟨first.drop inside least, each⟩
    · dsimp only
      omega
    · dsimp only
      rw [whole]
      rw [length_flatten_reverse] at fewer less
      omega
    · have needed : piece.min ≤ copies.length := first.least
      refine List.forall_mem_cons.mpr ⟨?_, tight (Nat.lt_of_lt_of_le long less)⟩
      dsimp only
      rw [List.length_reverse, full long]
      omega
    · obtain ⟨here, others_here⟩ := List.forall_mem_cons.mp characters
      have single : ∀ copy ∈ copies.reverse, copy.length = 1 := fun copy mem =>
        first.single here copy (List.mem_reverse.mp mem)
      have before := enough others_here
      have after := spared single
      dsimp only
      rw [whole]
      rw [length_flatten_reverse] at before after
      omega

/-! ### The whole text -/

theorem length_textOf (emitted : List (Piece Atom × List (List Char))) :
    (textOf emitted).length = totalLength (emitted.map (·.2)) := by
  induction emitted with
  | nil => rfl
  | cons entry rest ih =>
    have first : (textOf (entry :: rest)).length = entry.2.flatten.length + (textOf rest).length :=
      List.length_append
    rw [first, ih, List.map_cons, totalLength_cons]

/-- How many copies the pieces have at least. -/
def leastCopies : List (Piece Atom) → Nat
  | [] => 0
  | piece :: rest => piece.min + leastCopies rest

/-- How the copies of some pieces stand in a text of which `min` to `max` characters were asked for. -/
structure Steered (min max : Nat) (pieces : List (Piece Atom))
    (emitted : List (Piece Atom × List (List Char))) : Prop where
  same : emitted.map (·.1) = pieces
  least : ∀ entry ∈ emitted, entry.1.min ≤ entry.2.length
  -- a range that is the wrong way round cannot be drawn from, and none is ever read (`parse_ordered`)
  most : ∀ entry ∈ emitted, entry.1.unbounded = false → entry.1.min ≤ entry.1.max → entry.2.length ≤ entry.1.max
  tight : max < (textOf emitted).length → ∀ entry ∈ emitted, entry.2.length = entry.1.min
  exact : (∀ piece ∈ pieces, piece.atom.IsCharacter) → (∃ piece ∈ pieces, piece.unbounded = true) →
    leastCopies pieces ≤ max → min ≤ (textOf emitted).length ∧ (textOf emitted).length ≤ max

/-- As many single characters as copies. -/
theorem length_textOf_of_least {emitted : List (Piece Atom × List (List Char))}
    (copied : ∀ entry ∈ emitted, entry.1.Copied entry.2)
    (characters : ∀ entry ∈ emitted, entry.1.atom.IsCharacter)
    (least : ∀ entry ∈ emitted, entry.2.length = entry.1.min) :
    (textOf emitted).length = leastCopies (emitted.map (·.1)) := by
  induction emitted with
  | nil => rfl
  | cons entry rest ih =>
    obtain ⟨copied, copied_rest⟩ := List.forall_mem_cons.mp copied
    obtain ⟨character, characters⟩ := List.forall_mem_cons.mp characters
    obtain ⟨same, least⟩ := List.forall_mem_cons.mp least
    have first : (textOf (entry :: rest)).length = entry.2.flatten.length + (textOf rest).length :=
      List.length_append
    rw [first, length_flatten_of_single (copied.single character), same, ih copied_rest characters least,
      List.map_cons, leastCopies]

theorem steered_of_trimmed {min max : Nat} {grown : List (List (List Char))}
    (copied : List.Forall₂ Piece.Copied pieces grown)
    (long : (∀ piece ∈ pieces, piece.atom.IsCharacter) → (∃ piece ∈ pieces, piece.unbounded = true) →
      min ≤ totalLength grown) (ordered : min ≤ max)
    {trimmed : List (Piece Atom × List (List Char)) × Nat} (held : Trimmed max 0 (pieces.zip grown) trimmed) :
    Steered min max pieces trimmed.1 := by
  have same : trimmed.1.map (·.1) = pieces := by
    rw [held.same, List.map_fst_zip (Nat.le_of_eq copied.length_eq)]
  have before : totalLength ((pieces.zip grown).map (·.2)) = totalLength grown := by
    rw [List.map_snd_zip (Nat.le_of_eq copied.length_eq.symm)]
  have after : (textOf trimmed.1).length = trimmed.2 := by
    rw [length_textOf, held.total, Nat.zero_add]
  refine ⟨same, fun entry mem => (held.copied entry mem).least, fun entry mem => (held.copied entry mem).most,
    fun still => held.tight (after ▸ still), fun characters unbounded fits => ?_⟩
  have each : ∀ entry ∈ trimmed.1, entry.1.atom.IsCharacter := fun entry mem =>
    characters _ (same ▸ List.mem_map_of_mem mem)
  have paired : ∀ entry ∈ pieces.zip grown, entry.1.atom.IsCharacter := fun entry mem =>
    characters _ (List.of_mem_zip mem).1
  have enough := held.enough paired
  have reached := long characters unbounded
  refine ⟨by omega, Nat.not_lt.mp fun still => ?_⟩
  -- a text that is still too long has the least copies only, and those fit
  have least := length_textOf_of_least held.copied each (held.tight (after ▸ still))
  rw [same] at least
  omega

theorem drawSteered_gives {min max : Nat} (ordered : min ≤ max) (pieces : List (Piece Atom)) :
    (drawSteered min max pieces : Draw σ _).Gives (Steered min max pieces) := by
  have trimmed {grown : List (List (List Char))} (copied : List.Forall₂ Piece.Copied pieces grown)
      (long : (∀ piece ∈ pieces, piece.atom.IsCharacter) → (∃ piece ∈ pieces, piece.unbounded = true) →
        min ≤ totalLength grown) :
      (do return (← trimEnd max (totalLength grown) (pieces.zip grown)).1 : Draw σ _).Gives
        (Steered min max pieces) := by
    have each : ∀ entry ∈ pieces.zip grown, entry.1.Copied entry.2 := fun entry mem =>
      (List.forall₂_iff_zip.mp copied).2 mem
    have total := trimEnd_gives (σ := σ) max 0 each
    rw [List.map_snd_zip (Nat.le_of_eq copied.length_eq.symm), Nat.zero_add] at total
    exact total.bind fun kept held => Draw.gives_pure (steered_of_trimmed copied long ordered held)
  refine (drawCopies_gives pieces).bind fun copies copied => ?_
  unfold steer
  dsimp only
  split
  · rename_i short
    exact (grow_gives ordered short copied).bind fun grown held =>
      trimmed held.1 fun characters unbounded => (held.2 characters unbounded).1
  · rename_i long
    exact trimmed copied fun _ _ => Nat.not_lt.mp long

/-- Whatever is drawn, the text of a pattern is the text of one alternative, and how often its pieces stand in it is
steered towards the range. -/
theorem renderSized_steered {min max : Nat} (ordered : min ≤ max) (first : List (Piece Atom))
    (rest : List (List (Piece Atom))) (source : σ) :
    ∃ pieces ∈ first :: rest, ∃ before : σ,
      renderSized min max (first :: rest) source =
        (textOf (drawSteered min max pieces before).1, (drawSteered min max pieces before).2) ∧
      Steered min max pieces (drawSteered min max pieces before).1 :=
  ⟨(Draw.oneOf first rest source).1, Draw.oneOf_gives first rest source, (Draw.oneOf first rest source).2, rfl,
    drawSteered_gives ordered _ _⟩

def letters : List (Piece Atom) := [⟨.class smallLetters, 1, 1 + unboundedExtra, true⟩]

/-- Letters that are asked for eight to twelve times. -/
theorem renderSized_steered_letters :
    let source : Script := ⟨[], 0, 0⟩
    8 ≤ 12 ∧ 8 ≤ (renderSized 8 12 [letters] source).1.length ∧
      (renderSized 8 12 [letters] source).1.length ≤ 12 := by
  intro source
  have ordered : 8 ≤ 12 := by decide
  obtain ⟨pieces, mem, before, run, steered⟩ := renderSized_steered ordered letters [] source
  obtain rfl := List.mem_singleton.mp mem
  refine ⟨ordered, ?_⟩
  rw [run]
  dsimp only
  refine steered.exact (fun piece inside => ?_) ⟨_, List.mem_singleton_self _, rfl⟩ (by decide)
  obtain rfl := List.mem_singleton.mp inside
  show smallLetters ≠ []
  decide

end Generation.Pattern

end MockApi
