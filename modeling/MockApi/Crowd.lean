/-!
# Crowds

Any number of parties work on one shared state. Only one of them moves at a time, and any of them may be
the next.
-/

namespace MockApi

/-- What is shared, and where each party stands. -/
structure Crowd (σ π : Type) where
  shared : σ
  parties : List π

namespace Crowd

variable {σ π : Type}

/-- One party moves. Nothing happens if there is none at that place. -/
def move (c : Crowd σ π) (i : Nat) (act : σ → π → σ × π) : Crowd σ π :=
  match c.parties[i]? with
  | none => c
  | some party =>
    let next := act c.shared party
    ⟨next.1, c.parties.set i next.2⟩

variable {c : Crowd σ π} {i : Nat} {party : π} {act : σ → π → σ × π}

theorem move_of_none (absent : c.parties[i]? = none) : c.move i act = c := by
  rw [move, absent]

theorem move_of_some (present : c.parties[i]? = some party) :
    c.move i act = ⟨(act c.shared party).1, c.parties.set i (act c.shared party).2⟩ := by
  rw [move, present]

/-- A move changes nothing, or what is shared and one party among the others. -/
theorem move_cases (c : Crowd σ π) (i : Nat) (act : σ → π → σ × π) :
    c.move i act = c ∨ ∃ before party after, c.parties = before ++ party :: after ∧
      c.move i act =
        ⟨(act c.shared party).1, before ++ (act c.shared party).2 :: after⟩ := by
  cases present : c.parties[i]? with
  | none => exact .inl (move_of_none present)
  | some party =>
    obtain ⟨inside, rfl⟩ := List.getElem?_eq_some_iff.mp present
    refine .inr ⟨c.parties.take i, c.parties[i], c.parties.drop (i + 1), ?_, ?_⟩
    · rw [List.getElem_cons_drop, List.take_append_drop]
    · rw [move_of_some present, List.set_eq_take_append_cons_drop, if_pos inside]

/-- Where one party is replaced, every other one was there before. -/
theorem mem_replaced {before after : List π} {old new other : π}
    (mem : other ∈ before ++ new :: after) : other = new ∨ other ∈ before ++ old :: after := by
  rcases List.mem_append.mp mem with early | late
  · exact .inr (List.mem_append_left _ early)
  · rcases List.mem_cons.mp late with rfl | late
    · exact .inl rfl
    · exact .inr (List.mem_append_right _ (List.mem_cons_of_mem _ late))

theorem getElem?_move_of_ne {j : Nat} (c : Crowd σ π) (act : σ → π → σ × π) (apart : i ≠ j) :
    (c.move i act).parties[j]? = c.parties[j]? := by
  cases present : c.parties[i]? with
  | none => rw [move_of_none present]
  | some party => rw [move_of_some present, List.getElem?_set_ne apart]

theorem getElem?_move_self (act : σ → π → σ × π) (present : c.parties[i]? = some party) :
    (c.move i act).parties[i]? = some (act c.shared party).2 := by
  obtain ⟨inside, -⟩ := List.getElem?_eq_some_iff.mp present
  rw [move_of_some present, List.getElem?_set_self inside]

/-- The same party moves again. -/
theorem move_set (c : Crowd σ π) (act : σ → π → σ × π) (inside : i < c.parties.length) (shared : σ)
    (party : π) : (⟨shared, c.parties.set i party⟩ : Crowd σ π).move i act =
      ⟨(act shared party).1, c.parties.set i (act shared party).2⟩ := by
  have present : (c.parties.set i party)[i]? = some party := List.getElem?_set_self inside
  rw [move_of_some present, List.set_set]

/-- A party that its move leaves alone moves nothing. -/
theorem move_eq_self (present : c.parties[i]? = some party)
    (idle : act c.shared party = (c.shared, party)) : c.move i act = c := by
  obtain ⟨inside, rfl⟩ := List.getElem?_eq_some_iff.mp present
  rw [move_of_some present, idle, List.set_getElem_self]

/-! ### What holds of every party -/

/-- What each party keeps in its own move, all parties keep in every move. -/
theorem forall_getElem?_move {P : Nat → π → Prop}
    (all : ∀ j party, c.parties[j]? = some party → P j party)
    (kept : ∀ party, c.parties[i]? = some party → P i party → P i (act c.shared party).2) :
    ∀ j party, (c.move i act).parties[j]? = some party → P j party := by
  intro j party present
  by_cases same : i = j
  · subst same
    cases was : c.parties[i]? with
    | none =>
      rw [move_of_none was] at present
      exact all i party present
    | some old =>
      rw [getElem?_move_self act was] at present
      cases present
      exact kept old was (all i old was)
  · rw [getElem?_move_of_ne c act same] at present
    exact all j party present

theorem shared_move {P : σ → Prop} (holds : P c.shared)
    (kept : ∀ party, c.parties[i]? = some party → P (act c.shared party).1) :
    P (c.move i act).shared := by
  cases present : c.parties[i]? with
  | none => rwa [move_of_none present]
  | some party =>
    rw [move_of_some present]
    exact kept party present

/-! ### Counting parties -/

theorem countP_set_add {parties : List π} {old : π} (p : π → Bool) (present : parties[i]? = some old)
    (new : π) :
    (parties.set i new).countP p + (p old).toNat = parties.countP p + (p new).toNat := by
  obtain ⟨inside, rfl⟩ := List.getElem?_eq_some_iff.mp present
  have counted := List.boole_getElem_le_countP (p := p) inside
  rw [List.countP_set inside]
  generalize p parties[i] = was at counted ⊢
  cases was <;> cases p new <;>
    simp only [Bool.false_eq_true, ↓reduceIte, Bool.toNat_true, Bool.toNat_false] at counted ⊢ <;>
    omega

variable (count : σ → Nat) (p : π → Bool)

/-- If what is shared counts the parties of a kind, and counts a party that comes to be of this kind in
its move, then it still counts them. -/
theorem count_move (counted : count c.shared = c.parties.countP p)
    (step : ∀ party, c.parties[i]? = some party → count (act c.shared party).1 + (p party).toNat =
      count c.shared + (p (act c.shared party).2).toNat) :
    count (c.move i act).shared = (c.move i act).parties.countP p := by
  cases present : c.parties[i]? with
  | none => rwa [move_of_none present]
  | some party =>
    have moved := countP_set_add p present (act c.shared party).2
    have stepped := step party present
    rw [move_of_some present]
    dsimp only
    omega

/-- The same for an upper bound. -/
theorem count_move_le (counted : count c.shared ≤ c.parties.countP p)
    (step : ∀ party, c.parties[i]? = some party → count (act c.shared party).1 + (p party).toNat ≤
      count c.shared + (p (act c.shared party).2).toNat) :
    count (c.move i act).shared ≤ (c.move i act).parties.countP p := by
  cases present : c.parties[i]? with
  | none => rwa [move_of_none present]
  | some party =>
    have moved := countP_set_add p present (act c.shared party).2
    have stepped := step party present
    rw [move_of_some present]
    dsimp only
    omega

end Crowd

end MockApi
