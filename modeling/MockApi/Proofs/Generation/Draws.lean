import MockApi.Generation.Leaf
import MockApi.Proofs.Generation.Yields
import Mathlib.Data.List.GetD

/-!
# What single draws give

Numbers of a range, elements of a list, and texts of a length, for every state of the source.
-/

namespace MockApi

namespace Draw

variable {σ α β : Type} {P : α → Prop} {Q : β → Prop}

theorem gives_pure {value : α} (h : P value) : (pure value : Draw σ α).Gives P := fun _ => h

theorem Gives.bind {draw : Draw σ α} {next : α → Draw σ β} (first : draw.Gives P)
    (then_ : ∀ value, P value → (next value).Gives Q) : (draw >>= next).Gives Q :=
  fun source => then_ _ (first source) _

theorem Gives.mono {draw : Draw σ α} {P' : α → Prop} (gives : draw.Gives P)
    (weaker : ∀ value, P value → P' value) : draw.Gives P' :=
  fun source => weaker _ (gives source)

theorem gives_any (draw : Draw σ α) : draw.Gives fun _ => True := fun _ => trivial

theorem times_gives {draw : Draw σ α} (gives : draw.Gives P) (count : Nat) :
    (times count draw).Gives fun values => values.length = count ∧ ∀ value ∈ values, P value := by
  induction count with
  | zero => exact gives_pure ⟨rfl, nofun⟩
  | succ count ih =>
    refine gives.bind fun value holds => ih.bind fun values rest => gives_pure ⟨?_, ?_⟩
    · rw [List.length_cons, rest.1]
    · exact List.forall_mem_cons.mpr ⟨holds, rest.2⟩

variable [Source σ]

theorem natBetween_gives {lo hi : Nat} (ordered : lo ≤ hi) :
    (natBetween lo hi : Draw σ Nat).Gives fun n => lo ≤ n ∧ n ≤ hi := by
  have below : (below64 (hi - lo + 1) : Draw σ Nat).Gives (· < hi - lo + 1) := below64_lt (by omega)
  refine (gives_any _).bind fun _ _ => below.bind fun n small => gives_pure ?_
  omega

theorem shortBetween_gives {lo hi : Nat} (ordered : lo ≤ hi) :
    (shortBetween lo hi : Draw σ Nat).Gives fun n => lo ≤ n ∧ n ≤ hi := by
  have below : (below32 (hi - lo + 1) : Draw σ Nat).Gives (· < hi - lo + 1) := below32_lt (Nat.succ_pos _)
  refine (gives_any _).bind fun _ _ => below.bind fun n small => gives_pure ?_
  omega

theorem intBetween_gives {lo hi : Int} (ordered : lo ≤ hi) :
    (intBetween lo hi : Draw σ Int).Gives fun n => lo ≤ n ∧ n ≤ hi := by
  refine (gives_any _).bind fun _ _ => ?_
  dsimp only
  split
  · refine (gives_any _).bind fun word _ => gives_pure ?_
    have least := Int.emod_nonneg (word.toNat - lo) (b := (2 ^ 64 : Nat)) (by decide)
    have most := Int.emod_lt_of_pos (word.toNat - lo) (b := (2 ^ 64 : Nat)) (by decide)
    omega
  · have below : (below64 (hi - lo + 1).toNat : Draw σ Nat).Gives (· < (hi - lo + 1).toNat) :=
      below64_lt (by omega)
    refine below.bind fun n small => gives_pure ?_
    omega

theorem index_gives {length : Nat} (inhabited : 0 < length) :
    (index length : Draw σ Nat).Gives (· < length) := by
  have below : (below64 length : Draw σ Nat).Gives (· < length) := below64_lt inhabited
  exact (gives_any _).bind fun _ _ => below.bind fun i small =>
    (gives_any _).bind fun _ _ => gives_pure small

theorem oneOf_gives (x : α) (rest : List α) :
    (oneOf x rest : Draw σ α).Gives (· ∈ x :: rest) := by
  refine (index_gives (Nat.succ_pos rest.length)).bind fun i small => gives_pure ?_
  rw [List.getD_eq_getElem _ _ (by simpa using small)]
  exact List.getElem_mem _

end Draw

namespace Generation

variable {σ : Type} [Source σ]

/-! ### Filler text -/

theorem fillerWords_nonempty : ∀ word ∈ fillerWords, 0 < word.toList.length := by
  decide

/-- Every word takes at least one character, so the room is used up. -/
theorem fill_gives {fuel room : Nat} (enough : room ≤ fuel) (soFar : List Char) :
    (fill fuel room soFar : Draw σ _).Gives fun s => soFar.length + room ≤ s.length := by
  induction fuel generalizing room soFar with
  | zero =>
    cases Nat.le_zero.mp enough
    exact Draw.gives_pure (Nat.le_refl _)
  | succ fuel ih =>
    cases room with
    | zero => exact Draw.gives_pure (Nat.le_refl _)
    | succ room =>
      have inhabited : 0 < fillerWords.length := by decide
      refine (Draw.index_gives inhabited).bind fun i small => ?_
      have long := fillerWords_nonempty _ (List.getElem_mem small)
      rw [List.getD_eq_getElem _ _ small]
      refine (ih (by omega) _).mono fun s grown => ?_
      simp only [List.length_append, List.length_reverse] at grown
      omega

theorem length_closeEnd (s : List Char) : (closeEnd s).length = s.length := by
  unfold closeEnd
  split <;> rfl

theorem fillerText_gives (length : Nat) :
    (fillerText length : Draw σ String).Gives (·.length = length) := by
  refine (fill_gives (Nat.le_refl length) []).bind fun soFar long => Draw.gives_pure ?_
  rw [String.length_ofList, List.length_reverse, length_closeEnd, List.length_drop]
  simp only [List.length_nil] at long
  omega

/-! ### Numbers and integers -/

/-- A number is a multiple of the step or spread over the range, written as JSON writes it. -/
theorem numberDraw_gives {k : Schema.Keywords} {P : Binary64 → Prop}
    (multiple : ∀ step : Binary64.Finite, k.multipleOf = some step → Binary64.zero.lt step = true →
      (multipleDraw (.ofKeywords k) step : Draw σ Binary64).Gives P)
    (spread : (spreadDraw (.ofKeywords k) : Draw σ Binary64).Gives P) :
    (numberDraw k : Draw σ Json).Gives fun value => ∃ x, P x ∧ value = .ofBinary64 x := by
  have written {draw : Draw σ Binary64} (gives : draw.Gives P) :
      (do return .ofBinary64 (← draw) : Draw σ Json).Gives fun value => ∃ x, P x ∧ value = .ofBinary64 x :=
    gives.bind fun x holds => Draw.gives_pure ⟨x, holds, rfl⟩
  unfold numberDraw
  dsimp only
  split
  · rename_i step chosen
    obtain ⟨given, positive⟩ := Option.filter_eq_some_iff.mp chosen
    obtain ⟨x, stated, same⟩ := Option.bind_eq_some_iff.mp given
    cases same
    exact written (multiple x stated positive)
  · exact written spread

/-- An integer is drawn as a whole number, whatever the range. -/
theorem integerDraw_gives (k : Schema.Keywords) :
    (integerDraw k : Draw σ Json).Gives fun value => ∃ n, value = .number (.whole n) := by
  unfold integerDraw
  split
  split
  · dsimp only
    split
    · exact Draw.gives_pure ⟨_, rfl⟩
    · exact (Draw.gives_any _).bind fun n _ => Draw.gives_pure ⟨_, rfl⟩
  · split
    · exact Draw.gives_pure ⟨_, rfl⟩
    · exact (Draw.gives_any _).bind fun n _ => Draw.gives_pure ⟨_, rfl⟩

end Generation

end MockApi
