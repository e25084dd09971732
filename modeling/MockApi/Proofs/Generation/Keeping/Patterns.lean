import MockApi.Proofs.Generation.Keeping
import MockApi.Proofs.Generation.Patterns.Rendering

/-!
# Patterns rely on what is met

Whatever is read as a pattern, its repetitions have a least number that is not above the greatest
(`parse_ordered`), and each step of the reader keeps it so. A text is therefore rendered from ranges that
are not empty. While its length is steered, the total that is kept is the length of the copies, so that a
copy that is dropped is part of it. Every copy of a piece is a text of its atom, and the number of copies
stays inside the bounds of the piece, so that the text is one of an alternative (`generate_rendered`).
-/

namespace MockApi.Generation.Pattern

/-! ### Repetitions that are in order -/

/-- Every repetition inside has its least number first. -/
inductive Atom.Ordered : Atom → Prop
  | literal (c : Char) : Ordered (.literal c)
  | among (members : List Char) : Ordered (.class members)
  | group {alternatives : List (List (Piece Atom))}
      (bounds : ∀ pieces ∈ alternatives, ∀ piece ∈ pieces, piece.min ≤ piece.max)
      (atoms : ∀ pieces ∈ alternatives, ∀ piece ∈ pieces, Ordered piece.atom) :
      Ordered (.group alternatives)

structure Piece.Ordered (piece : Piece Atom) : Prop where
  bounds : piece.min ≤ piece.max
  atom : piece.atom.Ordered

def AllOrdered (alternatives : List (List (Piece Atom))) : Prop :=
  ∀ pieces ∈ alternatives, ∀ piece ∈ pieces, piece.Ordered

theorem AllOrdered.group {alternatives : List (List (Piece Atom))} (all : AllOrdered alternatives) :
    (Atom.group alternatives).Ordered :=
  .group (fun pieces mem piece inside => (all pieces mem piece inside).bounds)
    fun pieces mem piece inside => (all pieces mem piece inside).atom

theorem escapeAtom_ordered (c : Char) : (escapeAtom c).Ordered := by
  unfold escapeAtom
  split
  all_goals first | exact .literal _ | exact .among _ | exact .group (by simp) (by simp)

theorem readBounds_ordered {s : List Char} {b : Bounds} (read : readBounds s = some b) :
    b.min ≤ b.max := by
  unfold readBounds at read
  split at read
  · obtain ⟨n, -, rfl⟩ := Option.map_eq_some_iff.mp read
    exact Nat.le_refl n
  · obtain ⟨lo, -, read⟩ := Option.bind_eq_some_iff.mp read
    split at read
    · cases read
      exact Nat.le_add_right _ _
    · obtain ⟨hi, -, read⟩ := Option.bind_eq_some_iff.mp read
      cases read
      exact Nat.le_max_right _ _

theorem parseBounds_ordered (s : List Char) : (parseBounds s).1.min ≤ (parseBounds s).1.max := by
  unfold parseBounds
  split
  · exact Nat.zero_le _
  · exact Nat.zero_le _
  · exact Nat.le_add_right _ _
  · split
    · rename_i read
      exact readBounds_ordered read
    · exact Nat.le_refl _
  · exact Nat.le_refl _

theorem parseQuantifier_ordered (s : List Char) :
    (parseQuantifier s).1.min ≤ (parseQuantifier s).1.max := by
  have same : (parseQuantifier s).1 = (parseBounds s).1 := by
    unfold parseQuantifier
    dsimp only
    split
    · rfl
    · split <;> rfl
  rw [same]
  exact parseBounds_ordered s

/-! ### Reading keeps them in order -/

structure Branches.Ordered (b : Branches) : Prop where
  finished : AllOrdered b.finished
  current : ∀ piece ∈ b.current, piece.Ordered

theorem Branches.Ordered.toList {b : Branches} (ordered : b.Ordered) : AllOrdered b.toList := by
  intro pieces mem
  rw [Branches.toList, List.mem_reverse] at mem
  rcases List.mem_cons.mp mem with rfl | mem
  · exact fun piece inside => ordered.current piece (List.mem_reverse.mp inside)
  · exact ordered.finished pieces mem

theorem Branches.Ordered.add {b : Branches} (ordered : b.Ordered) {piece : Piece Atom}
    (next : piece.Ordered) : Branches.Ordered { b with current := piece :: b.current } where
  finished := ordered.finished
  current := List.forall_mem_cons.mpr ⟨next, ordered.current⟩

structure Progress.Ordered (p : Progress) : Prop where
  outer : ∀ b ∈ p.outer, b.Ordered
  here : p.here.Ordered

namespace Progress.Ordered

variable {p : Progress}

theorem push (ordered : p.Ordered) {atom : Atom} (next : atom.Ordered) (s : List Char) :
    (p.push atom s).1.Ordered where
  outer := ordered.outer
  here := ordered.here.add ⟨parseQuantifier_ordered s, next⟩

theorem close (ordered : p.Ordered) (s : List Char) : (p.close s).1.Ordered := by
  unfold Progress.close
  split
  · exact ordered
  · rename_i around outer levels
    have levels_ordered : ∀ b ∈ around :: outer, b.Ordered := levels ▸ ordered.outer
    obtain ⟨here, others⟩ := List.forall_mem_cons.mp levels_ordered
    exact push ⟨others, here⟩ ordered.here.toList.group s

/-- The alternative that was read so far is finished. -/
theorem branch (ordered : p.Ordered) :
    Progress.Ordered { p with here := ⟨p.here.current.reverse :: p.here.finished, []⟩ } where
  outer := ordered.outer
  here := {
    finished := List.forall_mem_cons.mpr
      ⟨fun piece inside => ordered.here.current piece (List.mem_reverse.mp inside), ordered.here.finished⟩
    current := nofun }

theorem deepen (ordered : p.Ordered) : Progress.Ordered ⟨p.here :: p.outer, ⟨[], []⟩⟩ where
  outer := List.forall_mem_cons.mpr ⟨ordered.here, ordered.outer⟩
  here := ⟨nofun, nofun⟩

theorem step (ordered : p.Ordered) (c : Char) (rest : List Char) : (p.step c rest).1.Ordered := by
  unfold Progress.step
  split
  · split
    · exact ordered.push (.literal _) _
    · exact ordered.close _
  · exact ordered.branch
  · exact ordered
  · exact ordered
  · split
    · exact ordered.push (escapeAtom_ordered _) _
    · exact ordered.push (.literal _) _
  · exact ordered.push (.among _) _
  · exact ordered.deepen
  · exact ordered.push (.among _) _
  · exact ordered.push (.literal _) _

theorem run (ordered : p.Ordered) (fuel : Nat) (s : List Char) : (Progress.run fuel p s).Ordered := by
  induction fuel generalizing p s with
  | zero => exact ordered
  | succ fuel ih =>
    cases s with
    | nil => exact ordered
    | cons c rest => exact ih (ordered.step c rest) _

theorem go {outer : List Branches} {here : Branches} (all : ∀ b ∈ outer, b.Ordered)
    (ordered : here.Ordered) : AllOrdered (Progress.finish.go outer here) := by
  induction outer generalizing here with
  | nil => exact ordered.toList
  | cons around outer ih =>
    obtain ⟨first, others⟩ := List.forall_mem_cons.mp all
    exact ih others (first.add ⟨Nat.le_refl 1, ordered.toList.group⟩)

theorem finish (ordered : p.Ordered) : AllOrdered p.finish := go ordered.outer ordered.here

end Progress.Ordered

/-- Whatever text is read as a pattern, every repetition in it is in order. -/
theorem parse_ordered (pattern : String) : AllOrdered (parse pattern) := by
  have start : Progress.Ordered ⟨[], ⟨[], []⟩⟩ := ⟨nofun, nofun, nofun⟩
  exact (start.run pattern.length pattern.toList).finish

/-! ### Rendering -/

variable {σ : Type} [Source σ] {I : Invariant σ} {pieces : List (Piece Atom)}

theorem renderBranches_eq_map (alternatives : List (List (Piece Atom))) :
    (renderBranches alternatives : List (Draw σ (List Char))) = alternatives.map renderPieces := by
  induction alternatives with
  | nil => rfl
  | cons pieces rest ih => rw [renderBranches, ih, List.map_cons]

theorem times_renderAtom_keeps {piece : Piece Atom} {count : Nat}
    (atom : (renderAtom piece.atom : Draw σ (List Char)).Keeps I piece.atom.Renders)
    (within : piece.min ≤ count ∧ count ≤ piece.max) :
    (Draw.times count (renderAtom piece.atom) : Draw σ _).Keeps I piece.Repeats := by
  refine (atom.times_all count).mono fun copies held => ?_
  obtain ⟨same, each⟩ := held
  subst same
  exact ⟨⟨within.1, fun _ => within.2⟩, each⟩

theorem renderPieces_keeps (bounds : ∀ piece ∈ pieces, piece.min ≤ piece.max)
    (atoms : ∀ piece ∈ pieces, (renderAtom piece.atom : Draw σ (List Char)).Keeps I piece.atom.Renders) :
    (renderPieces pieces : Draw σ (List Char)).Keeps I (Rendered pieces) := by
  induction pieces with
  | nil => exact Draw.keeps_pure .nil
  | cons piece rest ih =>
    obtain ⟨first, bounds⟩ := List.forall_mem_cons.mp bounds
    obtain ⟨atom, atoms⟩ := List.forall_mem_cons.mp atoms
    refine (Draw.shortBetween_keeps first).bind fun count within => ?_
    refine (times_renderAtom_keeps atom within).bind fun copies repeats => ?_
    exact (ih bounds atoms).bind fun s rendered => Draw.keeps_pure (.cons repeats.counts repeats.each rendered)

theorem renderAtom_keeps {atom : Atom} (ordered : atom.Ordered) :
    (renderAtom atom : Draw σ (List Char)).Keeps I atom.Renders := by
  induction ordered with
  | literal c => exact Draw.keeps_pure (.literal c)
  | among members =>
    cases members with
    | nil => exact Draw.keeps_pure .amongNone
    | cons first rest => exact (Draw.oneOf_keeps first rest).bind fun c mem => Draw.keeps_pure (.among mem)
  | @group alternatives bounds atoms ih =>
    cases alternatives with
    | nil => exact Draw.keeps_pure .groupNone
    | cons first rest =>
      refine (Draw.oneOf_keeps _ _).bind fun branch mem => ?_
      rw [renderBranches_eq_map, ← List.map_cons] at mem
      obtain ⟨pieces, inside, rfl⟩ := List.mem_map.mp mem
      exact (renderPieces_keeps (bounds pieces inside) (ih pieces inside)).mono fun s rendered => .group inside rendered

theorem drawCopies_keeps (ordered : ∀ piece ∈ pieces, piece.Ordered) :
    (drawCopies pieces : Draw σ _).Keeps I (List.Forall₂ Piece.Repeats pieces) := by
  induction pieces with
  | nil => exact Draw.keeps_pure .nil
  | cons piece rest ih =>
    obtain ⟨first, others⟩ := List.forall_mem_cons.mp ordered
    refine (Draw.shortBetween_keeps first.bounds).bind fun count within => ?_
    refine (times_renderAtom_keeps (renderAtom_keeps first.atom) within).bind fun copies repeats => ?_
    exact (ih others).bind fun more rest => Draw.keeps_pure (.cons repeats rest)

/-! ### Steering the length -/

theorem extraCopies_keeps {atom : Atom} (ordered : atom.Ordered) (fuel missing : Nat) :
    (extraCopies atom fuel missing : Draw σ _).Keeps I (∀ copy ∈ ·, atom.Renders copy) := by
  induction fuel generalizing missing with
  | zero => cases missing <;> exact Draw.keeps_pure nofun
  | succ fuel ih =>
    cases missing with
    | zero => exact Draw.keeps_pure nofun
    | succ missing =>
      refine (renderAtom_keeps ordered).bind fun copy rendered => ?_
      split
      · exact Draw.keeps_pure nofun
      · exact (ih _).bind fun copies each => Draw.keeps_pure (List.forall_mem_cons.mpr ⟨rendered, each⟩)

theorem exists_of_lastUnbounded? {i : Nat} (found : lastUnbounded? pieces = some i) :
    ∃ inside : i < pieces.length, pieces[i].unbounded = true := by
  induction pieces generalizing i with
  | nil => cases found
  | cons piece rest ih =>
    rw [lastUnbounded?] at found
    cases later : lastUnbounded? rest with
    | some j =>
      rw [later] at found
      cases found
      obtain ⟨inside, unbounded⟩ := ih later
      exact ⟨Nat.succ_lt_succ inside, unbounded⟩
    | none =>
      rw [later] at found
      simp only [Option.map_none, Option.none_or] at found
      split at found
      · rename_i unbounded
        cases found
        exact ⟨Nat.succ_pos _, unbounded⟩
      · cases found

theorem grow_keeps (ordered : ∀ piece ∈ pieces, piece.Ordered) (min max : Nat)
    {copies : List (List (List Char))} (repeats : List.Forall₂ Piece.Repeats pieces copies) :
    (grow min max pieces copies : Draw σ _).Keeps I (List.Forall₂ Piece.Repeats pieces) := by
  have range : min ≤ Nat.min (Nat.max max min) (min + unboundedExtra) :=
    Nat.le_min_of_le_of_le (Nat.le_max_right _ _) (Nat.le_add_right _ _)
  refine (Draw.natBetween_keeps range).bind fun target _ => ?_
  split
  · exact Draw.keeps_pure repeats
  · rename_i i found
    obtain ⟨inside, unbounded⟩ := exists_of_lastUnbounded? found
    refine Draw.rely_bind inside ?_
    rw [List.getElem?_eq_getElem inside]
    refine (extraCopies_keeps (ordered _ (List.getElem_mem inside)).atom _ _).bind fun extra each => ?_
    refine Draw.rely_bind (show i < copies.length from repeats.length_eq ▸ inside) (Draw.keeps_pure ?_)
    exact forall₂_modify repeats inside fun _ before => before.grow unbounded each

theorem totalLength_cons (copies : List (List Char)) (others : List (List (List Char))) :
    totalLength (copies :: others) = copies.flatten.length + totalLength others := by
  rw [totalLength, List.flatten_cons, List.flatten_append, List.length_append, totalLength]

theorem length_flatten_reverse (copies : List (List Char)) :
    copies.reverse.flatten.length = copies.flatten.length := by
  rw [List.length_flatten, List.length_flatten, List.map_reverse, List.sum_reverse]

/-- The total stays the length of the copies and of what is beside them. No more than the spare copies are dropped,
and the others are kept as they are. -/
theorem dropCopies_keeps (max spare others : Nat) (copies : List (List Char)) :
    (dropCopies max spare (others + copies.flatten.length) copies : Draw σ _).Keeps I fun kept =>
      kept.2 = others + kept.1.flatten.length ∧ kept.1 <:+ copies ∧ copies.length - spare ≤ kept.1.length := by
  have whole (spare : Nat) (copies : List (List Char)) : copies <:+ copies ∧ copies.length - spare ≤ copies.length :=
    ⟨List.suffix_rfl, Nat.sub_le _ _⟩
  induction copies generalizing spare with
  | nil => cases spare <;> exact Draw.keeps_pure ⟨rfl, whole _ _⟩
  | cons copy copies ih =>
    cases spare with
    | zero => exact Draw.keeps_pure ⟨rfl, whole _ _⟩
    | succ spare =>
      unfold dropCopies
      split
      · exact Draw.keeps_pure ⟨rfl, whole _ _⟩
      · have total : others + (copy :: copies).flatten.length =
            others + copies.flatten.length + copy.length := by
          rw [List.flatten_cons, List.length_append]
          omega
        rw [total]
        refine (Draw.minus_keeps (Nat.le_add_left _ _)).bind fun total left => ?_
        rw [left, Nat.add_sub_cancel]
        refine (ih spare).mono fun kept held => ?_
        obtain ⟨same, inside, least⟩ := held
        rw [List.length_cons, Nat.succ_sub_succ]
        exact ⟨same, inside.trans (List.suffix_cons copy copies), least⟩

theorem trimEnd_keeps (max others : Nat) {paired : List (Piece Atom × List (List Char))}
    (repeats : ∀ entry ∈ paired, entry.1.Repeats entry.2) :
    (trimEnd max (others + totalLength (paired.map (·.2))) paired : Draw σ _).Keeps I fun trimmed =>
      trimmed.2 = others + totalLength (trimmed.1.map (·.2)) ∧
        trimmed.1.map (·.1) = paired.map (·.1) ∧ ∀ entry ∈ trimmed.1, entry.1.Repeats entry.2 := by
  induction paired generalizing others with
  | nil => exact Draw.keeps_pure ⟨rfl, rfl, nofun⟩
  | cons entry paired ih =>
    obtain ⟨piece, copies⟩ := entry
    obtain ⟨first, behind⟩ := List.forall_mem_cons.mp repeats
    rw [List.map_cons, totalLength_cons, ← Nat.add_assoc]
    refine (ih _ behind).bind fun trimmed held => ?_
    obtain ⟨rest, total⟩ := trimmed
    obtain ⟨left, same, each⟩ := held
    obtain rfl : total = others + copies.flatten.length + totalLength (rest.map (·.2)) := left
    dsimp only
    rw [Nat.add_right_comm, ← length_flatten_reverse copies]
    refine (dropCopies_keeps _ _ _ _).bind fun kept held => Draw.keeps_pure ?_
    obtain ⟨left, inside, least⟩ := held
    rw [List.length_reverse] at least
    refine ⟨?_, ?_, List.forall_mem_cons.mpr ⟨first.drop inside least, each⟩⟩
    · dsimp only
      rw [left, List.map_cons, totalLength_cons, length_flatten_reverse]
      omega
    · rw [List.map_cons, same, List.map_cons]

theorem steer_keeps (ordered : ∀ piece ∈ pieces, piece.Ordered) (min max : Nat)
    {copies : List (List (List Char))} (repeats : List.Forall₂ Piece.Repeats pieces copies) :
    (steer min max pieces copies : Draw σ _).Keeps I fun paired =>
      paired.map (·.1) = pieces ∧ ∀ entry ∈ paired, entry.1.Repeats entry.2 := by
  have trimmed (grown : List (List (List Char))) (repeats : List.Forall₂ Piece.Repeats pieces grown) :
      (do return (← trimEnd max (totalLength grown) (pieces.zip grown)).1 : Draw σ _).Keeps I fun paired =>
        paired.map (·.1) = pieces ∧ ∀ entry ∈ paired, entry.1.Repeats entry.2 := by
    obtain ⟨length, paired⟩ := List.forall₂_iff_zip.mp repeats
    have second : (pieces.zip grown).map (·.2) = grown := List.map_snd_zip (Nat.le_of_eq length.symm)
    have total := trimEnd_keeps (σ := σ) (I := I) max 0 fun entry mem => paired mem
    rw [second, Nat.zero_add] at total
    refine total.bind fun kept held => Draw.keeps_pure ?_
    obtain ⟨-, same, each⟩ := held
    rw [List.map_fst_zip (Nat.le_of_eq length)] at same
    exact ⟨same, each⟩
  unfold steer
  dsimp only
  split
  · exact (grow_keeps ordered min max repeats).bind trimmed
  · exact trimmed copies repeats

/-! ### Whole texts -/

theorem renderSized_keeps {alternatives : List (List (Piece Atom))} (ordered : AllOrdered alternatives)
    (min max : Nat) :
    (renderSized min max alternatives : Draw σ _).Keeps I (Atom.group alternatives).Renders := by
  cases alternatives with
  | nil => exact Draw.keeps_pure .groupNone
  | cons first rest =>
    refine (Draw.oneOf_keeps first rest).bind fun pieces mem => ?_
    have inside := ordered pieces mem
    refine ((drawCopies_keeps inside).bind fun copies => steer_keeps inside min max).bind fun paired held => ?_
    obtain ⟨same, each⟩ := held
    exact Draw.keeps_pure (.group mem (same ▸ rendered_textOf each))

theorem renderUntil_keeps {render : Draw σ (List Char)} {P : List Char → Prop} (keeps : render.Keeps I P)
    (accept : List Char → Bool) (fuel : Nat) : (renderUntil accept render fuel).Keeps I P := by
  induction fuel with
  | zero => exact keeps
  | succ fuel ih =>
    refine keeps.bind fun candidate holds => ?_
    split
    · exact Draw.keeps_pure holds
    · exact ih

/-- However often it is drawn again, a text is one of an alternative of what was read. -/
theorem generate_rendered (pattern : String) (min max : Nat) :
    (generate pattern min max : Draw σ String).Keeps I fun text =>
      (Atom.group (parse pattern)).Renders text.toList := by
  refine (renderUntil_keeps (renderSized_keeps (parse_ordered pattern) min max) _ _).bind fun s rendered => ?_
  refine Draw.keeps_pure ?_
  rw [String.toList_ofList]
  exact rendered

theorem generate_keeps (pattern : String) (min max : Nat) :
    (generate pattern min max : Draw σ String).Keeps I :=
  (generate_rendered pattern min max).mono fun _ _ => trivial

end MockApi.Generation.Pattern
