import MockApi.Generation.Value
import MockApi.Proofs.Generation.Draws
import MockApi.Random.Watched

/-!
# What draws keep

An `Invariant` is a property of sources that no word takes away, and no demand that it allows. Draws,
generations and walks are judged by whether they keep it, and by what they end with: a value that has a
property, or a fault that has another.
-/

namespace MockApi

/-- What holds of a source whatever words it gives, as long as it is told of allowed demands only. What
is met is allowed. -/
structure Invariant (σ : Type) [Source σ] where
  Holds : σ → Prop
  Allows : Demand → Prop
  next32 (s : σ) : Holds s → Holds (Source.next32 s).2
  next64 (s : σ) : Holds s → Holds (Source.next64 s).2
  watch (demand : Demand) (s : σ) : Allows demand → Holds s → Holds (Source.watch demand s)
  met (demand : Demand) : demand.Met → Allows demand

namespace Invariant

variable {σ : Type} [Source σ]

/-- Every source, whatever it is told of. -/
def none : Invariant σ where
  Holds _ := True
  Allows _ := True
  next32 _ _ := trivial
  next64 _ _ := trivial
  watch _ _ _ _ := trivial
  met _ _ := trivial

/-- A watched source that was told of demands only that are met. -/
def relied : Invariant (Watched σ) where
  Holds w := ∀ demand ∈ w.relied, demand.Met
  Allows := Demand.Met
  next32 _ all := all
  next64 _ all := all
  watch demand w met all := by
    intro other mem
    rcases List.mem_cons.mp mem with rfl | mem
    · exact met
    · exact all other mem
  met _ met := met

end Invariant

/-! ### Draws -/

namespace Draw

variable {σ α β : Type} [Source σ]

/-- The draw keeps the invariant, and what it gives has the property. -/
def Keeps (draw : Draw σ α) (I : Invariant σ) (P : α → Prop := fun _ => True) : Prop :=
  ∀ s, I.Holds s → P (draw s).1 ∧ I.Holds (draw s).2

variable {I : Invariant σ} {P : α → Prop} {Q : β → Prop} {draw : Draw σ α}

theorem keeps_pure {value : α} (h : P value) : (pure value : Draw σ α).Keeps I P :=
  fun _ holds => ⟨h, holds⟩

theorem Keeps.bind {next : α → Draw σ β} (first : draw.Keeps I P)
    (then_ : ∀ value, P value → (next value).Keeps I Q) : (draw >>= next).Keeps I Q := by
  intro s holds
  obtain ⟨has, kept⟩ := first s holds
  exact then_ _ has _ kept

theorem Keeps.mono {P' : α → Prop} (keeps : draw.Keeps I P) (weaker : ∀ value, P value → P' value) :
    draw.Keeps I P' :=
  fun s holds => ⟨weaker _ (keeps s holds).1, (keeps s holds).2⟩

theorem Keeps.map (keeps : draw.Keeps I) (f : α → β) : (do return f (← draw) : Draw σ β).Keeps I :=
  keeps.bind fun _ _ => keeps_pure trivial

/-- What is given for every source is given where the invariant is kept. -/
theorem Keeps.gives (keeps : draw.Keeps I) (gives : draw.Gives P) : draw.Keeps I P :=
  fun s holds => ⟨gives s, (keeps s holds).2⟩

theorem rely_keeps {demand : Demand} (allowed : I.Allows demand) :
    (rely demand : Draw σ Unit).Keeps I :=
  fun s holds => ⟨trivial, I.watch demand s allowed holds⟩

/-- An operation that relies on what is met goes on. -/
theorem rely_bind {demand : Demand} {next : Draw σ α} (met : demand.Met) (then_ : next.Keeps I P) :
    (rely demand >>= fun _ => next).Keeps I P :=
  (rely_keeps (I.met demand met)).bind fun _ _ => then_

theorem word32_keeps : (word32 : Draw σ UInt32).Keeps I := fun s holds => ⟨trivial, I.next32 s holds⟩

theorem word64_keeps : (word64 : Draw σ UInt64).Keeps I := fun s holds => ⟨trivial, I.next64 s holds⟩

theorem Keeps.retry (keeps : draw.Keeps I) (accept : α → Bool) (fuel : Nat) :
    (Draw.retry accept draw fuel).Keeps I := by
  induction fuel with
  | zero => exact keeps
  | succ fuel ih =>
    refine keeps.bind fun value _ => ?_
    split
    · exact keeps_pure trivial
    · exact ih

theorem Keeps.times_all (keeps : draw.Keeps I P) (count : Nat) :
    (Draw.times count draw).Keeps I fun values => values.length = count ∧ ∀ value ∈ values, P value := by
  induction count with
  | zero => exact keeps_pure ⟨rfl, nofun⟩
  | succ count ih =>
    refine keeps.bind fun value holds => ih.bind fun values rest => keeps_pure ⟨?_, ?_⟩
    · rw [List.length_cons, rest.1]
    · exact List.forall_mem_cons.mpr ⟨holds, rest.2⟩

theorem Keeps.times (keeps : draw.Keeps I) (count : Nat) : (Draw.times count draw).Keeps I :=
  (keeps.times_all count).mono fun _ _ => trivial

/-! ### Numbers and members -/

theorem below64_keeps (n : Nat) : (below64 n : Draw σ Nat).Keeps I := by
  unfold below64
  split
  · exact word64_keeps.map _
  · exact ((word64_keeps.map _).retry _ _).map _

theorem below32_keeps (n : Nat) : (below32 n : Draw σ Nat).Keeps I := by
  unfold below32
  split
  · exact word32_keeps.map _
  · exact ((word32_keeps.map _).retry _ _).map _

theorem natBetween_keeps {lo hi : Nat} (ordered : lo ≤ hi) :
    (natBetween lo hi : Draw σ Nat).Keeps I fun n => lo ≤ n ∧ n ≤ hi := by
  have range : (Demand.range lo hi).Met := Int.ofNat_le.mpr ordered
  exact Keeps.gives (rely_bind range ((below64_keeps _).map _)) (natBetween_gives ordered)

theorem shortBetween_keeps {lo hi : Nat} (ordered : lo ≤ hi) :
    (shortBetween lo hi : Draw σ Nat).Keeps I fun n => lo ≤ n ∧ n ≤ hi := by
  have range : (Demand.range lo hi).Met := Int.ofNat_le.mpr ordered
  exact Keeps.gives (rely_bind range ((below32_keeps _).map _)) (shortBetween_gives ordered)

theorem intBetween_keeps {lo hi : Int} (ordered : lo ≤ hi) : (intBetween lo hi : Draw σ Int).Keeps I := by
  refine rely_bind ordered ?_
  dsimp only
  split
  · exact word64_keeps.map _
  · exact (below64_keeps _).map _

theorem index_keeps {length : Nat} (inhabited : 0 < length) :
    (index length : Draw σ Nat).Keeps I (· < length) := by
  have range : (Demand.range 0 (length - 1)).Met := show (0 : Int) ≤ length - 1 by omega
  have below : (below64 length : Draw σ Nat).Keeps I (· < length) :=
    (below64_keeps length).gives (below64_lt inhabited)
  exact rely_bind range (below.bind fun i small => rely_bind small (keeps_pure small))

theorem oneOf_keeps (x : α) (rest : List α) : (oneOf x rest : Draw σ α).Keeps I (· ∈ x :: rest) := by
  have drawn : (oneOf x rest : Draw σ α).Keeps I :=
    (index_keeps (Nat.succ_pos rest.length)).bind fun _ _ => keeps_pure trivial
  exact drawn.gives (oneOf_gives x rest)

theorem chance_keeps {p : Binary64} (allowed : I.Allows (.probability p)) :
    (chance p : Draw σ Bool).Keeps I := by
  refine (rely_keeps allowed).bind fun _ _ => ?_
  split
  · exact keeps_pure trivial
  · exact word64_keeps.map _

theorem unit_keeps : (unit : Draw σ Binary64).Keeps I := word64_keeps.map _

theorem letter_keeps : (letter : Draw σ Char).Keeps I :=
  rely_bind (by decide) ((((word32_keeps.map _).retry _ _).map _).map _)

theorem alphanumeric_keeps : (alphanumeric : Draw σ Char).Keeps I :=
  ((word32_keeps.map _).retry _ _).map _

theorem byte_keeps : (byte : Draw σ UInt8).Keeps I := word32_keeps.map _

theorem short_keeps : (short : Draw σ UInt16).Keeps I := word32_keeps.map _

theorem minus_keeps {whole part : Nat} (le : part ≤ whole) :
    (minus whole part : Draw σ Nat).Keeps I (· = whole - part) :=
  rely_bind le (keeps_pure rfl)

end Draw

/-! ### Steps that may fail -/

namespace Generation

variable {τ α β : Type} {H : τ → Prop} {F : Fault → Prop} {P : α → Prop} {Q : β → Prop}

/-- The result is a value with a property, or a fault with another. -/
def Ends (F : Fault → Prop) (P : α → Prop) : Except Fault α → Prop
  | .ok value => P value
  | .error fault => F fault

theorem Ends.of_ok {result : Except Fault α} {value : α} (ends : Ends F P result) (made : result = .ok value) :
    P value := by
  subst made
  exact ends

theorem Ends.exists_ok {result : Except Fault α} (ends : Ends F P result) (never : ∀ fault, ¬F fault) :
    ∃ value, result = .ok value := by
  cases result with
  | error fault => exact absurd ends (never fault)
  | ok value => exact ⟨value, rfl⟩

/-- The part keeps what holds of the state, and ends well. -/
def Keeps (H : τ → Prop) (F : Fault → Prop) (part : ExceptT Fault (StateM τ) α)
    (P : α → Prop := fun _ => True) : Prop :=
  ∀ s, H s → Ends F P (part s).1 ∧ H (part s).2

theorem keeps_pure {value : α} (h : P value) : Keeps H F (pure value) P := fun _ holds => ⟨h, holds⟩

theorem keeps_throw {fault : Fault} (h : F fault) :
    Keeps H F (throw fault : ExceptT Fault (StateM τ) α) P :=
  fun _ holds => ⟨h, holds⟩

theorem Keeps.bind {part : ExceptT Fault (StateM τ) α} {next : α → ExceptT Fault (StateM τ) β}
    (first : Keeps H F part P) (then_ : ∀ value, P value → Keeps H F (next value) Q) :
    Keeps H F (part >>= next) Q := by
  intro s holds
  obtain ⟨ends, kept⟩ := first s holds
  rcases run : part s with ⟨fault | value, after⟩ <;> rw [run] at ends kept
  · rw [bind_of_error run]
    exact ⟨ends, kept⟩
  · rw [bind_of_ok run]
    exact then_ value ends after kept

theorem Keeps.mono {part : ExceptT Fault (StateM τ) α} {P' : α → Prop} (keeps : Keeps H F part P)
    (weaker : ∀ value, P value → P' value) : Keeps H F part P' := by
  intro s holds
  obtain ⟨ends, kept⟩ := keeps s holds
  rcases run : part s with ⟨fault | value, after⟩ <;> rw [run] at ends kept
  · exact ⟨ends, kept⟩
  · exact ⟨weaker value ends, kept⟩

theorem Keeps.map {part : ExceptT Fault (StateM τ) α} (keeps : Keeps H F part) (f : α → β) :
    Keeps H F (do return f (← part)) :=
  keeps.bind fun _ _ => keeps_pure trivial

theorem Keeps.mapM_gives {ι : Type} {part : ι → ExceptT Fault (StateM τ) α} {R : ι → α → Prop} {xs : List ι}
    (each : ∀ x ∈ xs, Keeps H F (part x) (R x)) : Keeps H F (xs.mapM part) (List.Forall₂ R xs) := by
  induction xs with
  | nil => exact keeps_pure .nil
  | cons x xs ih =>
    rw [List.mapM_cons]
    refine (each x List.mem_cons_self).bind fun value holds => ?_
    refine (ih fun other mem => each other (List.mem_cons_of_mem x mem)).bind fun values rest => ?_
    exact keeps_pure (.cons holds rest)

theorem Keeps.mapM {ι : Type} {part : ι → ExceptT Fault (StateM τ) α} {xs : List ι}
    (each : ∀ x ∈ xs, Keeps H F (part x)) : Keeps H F (xs.mapM part) :=
  (mapM_gives each).mono fun _ _ => trivial

theorem Keeps.mapM_all {ι : Type} {part : ι → ExceptT Fault (StateM τ) α} {xs : List ι}
    (each : ∀ x ∈ xs, Keeps H F (part x) P) : Keeps H F (xs.mapM part) (∀ value ∈ ·, P value) := by
  refine (mapM_gives each).mono fun values all => ?_
  induction all with
  | nil => exact fun _ mem => absurd mem List.not_mem_nil
  | cons first rest ih =>
    refine List.forall_mem_cons.mpr ⟨first, ih fun x mem => each x (List.mem_cons_of_mem _ mem)⟩

/-! ### What parts make -/

variable {σ : Type}

/-- Whatever value the part ends with has the property. -/
abbrev Makes {τ α : Type} (part : ExceptT Fault (StateM τ) α) (P : α → Prop) : Prop :=
  Keeps (fun _ : τ => True) (fun _ => True) part P

theorem makes_any (part : ExceptT Fault (StateM τ) α) : Makes part fun _ => True := by
  intro s _
  cases (part s).1 <;> exact ⟨trivial, trivial⟩

theorem makes_throw (fault : Fault) : Makes (throw fault : ExceptT Fault (StateM τ) α) P :=
  keeps_throw trivial

/-- What is made from something has the property, if it has it whatever that is. -/
theorem makes_map (part : ExceptT Fault (StateM τ) β) {f : β → α} (each : ∀ value, P (f value)) :
    Makes (do return f (← part)) P :=
  (makes_any part).bind fun value _ => keeps_pure (each value)

theorem makes_drawn {draw : Draw σ α} (gives : draw.Gives P) : Makes (drawn draw) P :=
  fun s _ => ⟨gives s, trivial⟩

namespace Walking

theorem makes_lift {g : Generate σ α} (makes : Makes g P) : Makes (lift g) P :=
  fun walk _ => makes walk.source trivial

theorem makes_draw {draw : Draw σ α} (gives : draw.Gives P) : Makes (Walking.draw draw) P :=
  makes_lift (makes_drawn gives)

theorem makes_following {key : String} {part : Walking σ α} (makes : Makes part P) :
    Makes (following key part) P :=
  fun walk _ => makes { walk with following := key :: walk.following } trivial

end Walking

/-! ### Draws as parts -/

variable [Source σ] {I : Invariant σ}

theorem keeps_drawn {draw : Draw σ α} (keeps : draw.Keeps I P) : Keeps I.Holds F (drawn draw) P :=
  fun s holds => keeps s holds

/-! ### Walks -/

/-- The invariant holds of the source of a walk. -/
def Walk.Holds (I : Invariant σ) (walk : Walk σ) : Prop := I.Holds walk.source

namespace Walking

theorem keeps_lift {g : Generate σ α} (keeps : Generation.Keeps I.Holds F g P) :
    Generation.Keeps (Walk.Holds I) F (lift g) P :=
  fun walk holds => keeps walk.source holds

theorem keeps_draw {draw : Draw σ α} (keeps : draw.Keeps I P) :
    Generation.Keeps (Walk.Holds I) F (Walking.draw draw) P :=
  keeps_lift (keeps_drawn keeps)

theorem keeps_isFollowing (key : String) :
    Generation.Keeps (Walk.Holds I) F (isFollowing key : Walking σ Bool) :=
  fun _ holds => ⟨trivial, holds⟩

theorem keeps_following {key : String} {part : Walking σ α}
    (keeps : Generation.Keeps (Walk.Holds I) F part P) :
    Generation.Keeps (Walk.Holds I) F (following key part) P :=
  fun walk holds => keeps { walk with following := key :: walk.following } holds

end Walking

end Generation

end MockApi
