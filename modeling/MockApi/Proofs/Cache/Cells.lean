import MockApi.Proofs.Cache.Chain
import Mathlib.Data.List.Perm.Basic

/-!
# What a slab holds

A slab stands for a list of entries, each with the number of its slot: the chain visits them in that
order, the index leads to them, and all other slots are free. Every step on the slab is a step on that
list.
-/

namespace MockApi.Cache

variable {κ α : Type}

namespace Slab

/-- The slab holds these entries in these slots, from the one used last to the one used longest ago. -/
structure Holds (s : Slab κ α) (cells : List (Nat × Entry κ α)) : Prop where
  linked : s.Linked (cells.map (·.1))
  entry : ∀ i e, s.held? i = some e ↔ (i, e) ∈ cells
  keys : (cells.map (·.2.key)).Nodup
  index : s.index.Perm (cells.map fun cell => (cell.2.key, cell.1))
  vacant : ∀ i, i ∈ s.free ↔ i < s.slots.length ∧ s.held? i = none
  free : s.free.Nodup
  length : s.slots.length = cells.length + s.free.length

variable {s : Slab κ α} {cells before after : List (Nat × Entry κ α)} {i : Nat} {e : Entry κ α}

theorem Holds.empty : (Slab.empty : Slab κ α).Holds [] where
  linked := .empty
  entry i e := by simp [held?, slot?, Slab.empty]
  keys := List.nodup_nil
  index := .refl _
  vacant i := by simp [Slab.empty]
  free := List.nodup_nil
  length := rfl

namespace Holds

theorem index_length (holds : s.Holds cells) : s.index.length = cells.length := by
  rw [holds.index.length_eq, List.length_map]

/-! ### Looking a key up -/

section

variable [DecidableEq κ]

theorem find?_eq_none {key : κ} (holds : s.Holds cells) (absent : s.find? key = none) :
    ∀ cell ∈ cells, cell.2.key ≠ key := by
  intro cell mem same
  have listed : (cell.2.key, cell.1) ∈ s.index :=
    holds.index.mem_iff.mpr (List.mem_map_of_mem mem)
  have none_found := List.find?_eq_none.mp (Option.map_eq_none_iff.mp absent) _ listed
  simp [same] at none_found

theorem find?_eq_some {key : κ} (holds : s.Holds cells) (found : s.find? key = some i) :
    ∃ before e after, cells = before ++ (i, e) :: after ∧ e.key = key := by
  obtain ⟨⟨k, j⟩, first, rfl⟩ := Option.map_eq_some_iff.mp found
  obtain ⟨⟨j', e⟩, mem, same⟩ :=
    List.mem_map.mp (holds.index.mem_iff.mp (List.mem_of_find?_eq_some first))
  obtain ⟨rfl, rfl⟩ := Prod.mk.inj same
  obtain ⟨before, after, split⟩ := List.append_of_mem mem
  have key_eq := List.find?_some first
  exact ⟨before, e, after, split, by simpa using key_eq⟩

end

theorem entry_of_mem (holds : s.Holds cells) (mem : (i, e) ∈ cells) : s.held? i = some e :=
  (holds.entry i e).mpr mem

theorem notMem_of_vacant (holds : s.Holds cells) (vacant : s.held? i = none) :
    i ∉ cells.map (·.1) := by
  intro listed
  obtain ⟨⟨j, e⟩, mem, rfl⟩ := List.mem_map.mp listed
  rw [holds.entry_of_mem mem] at vacant
  cases vacant

/-! ### A change of order -/

/-- A slab with the same entries, index and free slots holds them in the order of its own chain. -/
theorem reorder {t : Slab κ α} {cells' : List (Nat × Entry κ α)} (holds : s.Holds cells)
    (perm : cells'.Perm cells) (linked : t.Linked (cells'.map (·.1)))
    (entry : ∀ i, t.held? i = s.held? i) (index : t.index = s.index) (free : t.free = s.free)
    (length : t.slots.length = s.slots.length) : t.Holds cells' where
  linked := linked
  entry i e := by rw [entry, holds.entry, perm.mem_iff]
  keys := (perm.map _).nodup_iff.mpr holds.keys
  index := by
    rw [index]
    exact holds.index.trans (perm.map _).symm
  vacant i := by rw [free, length, entry, holds.vacant]
  free := free ▸ holds.free
  length := by rw [length, free, holds.length, perm.length_eq]

theorem notMem_others (holds : s.Holds (before ++ (i, e) :: after)) :
    i ∉ (before ++ after).map (·.1) := by
  have nodup := holds.linked.nodup
  rw [List.map_append, List.map_cons, List.nodup_middle] at nodup
  rw [List.map_append]
  exact nodup.notMem

/-- The entry that is used moves to the front. -/
theorem moveToFront (holds : s.Holds (before ++ (i, e) :: after)) :
    (s.moveToFront i).Holds ((i, e) :: (before ++ after)) := by
  have entry (j : Nat) : (s.moveToFront i).held? j = s.held? j :=
    (held?_pushFront _ i j).trans (held?_detach s i j)
  refine holds.reorder List.perm_middle.symm ?_ entry (by simp [Slab.moveToFront])
    (by simp [Slab.moveToFront]) (by simp [Slab.moveToFront])
  have linked := holds.linked
  rw [List.map_append, List.map_cons] at linked
  rw [List.map_cons]
  refine (List.map_append ▸ linked.detach).pushFront holds.notMem_others ?_
  have occupied : s.held? i = some e := holds.entry_of_mem (by simp)
  rw [links?_isSome, held?_detach, occupied]
  rfl

/-! ### A new value -/

theorem held?_store (s : Slab κ α) (value : α) (now i j : Nat) :
    (s.modifySlot i fun slot => { slot with value, storedAt := now }).held? j =
      if i = j then (s.held? j).map fun e => { e with value, storedAt := now } else s.held? j := by
  unfold held?
  rw [slot?_modifySlot]
  split
  · rw [Option.map_map, Option.map_map]
    rfl
  · rfl

/-- An entry gets another value in its place. -/
theorem store (holds : s.Holds (before ++ (i, e) :: after)) (value : α) (now : Nat) :
    (s.modifySlot i fun slot => { slot with value, storedAt := now }).Holds
      (before ++ (i, { e with value, storedAt := now }) :: after) where
  linked := by
    have linked := holds.linked
    rw [List.map_append, List.map_cons] at linked ⊢
    exact linked.congr rfl rfl fun j _ => links?_modifySlot fun _ => ⟨rfl, rfl⟩
  entry j e' := by
    have others := holds.notMem_others
    rw [held?_store]
    split
    · rename_i same
      subst same
      have occupied : s.held? i = some e := holds.entry_of_mem (by simp)
      rw [occupied]
      grind
    · rw [holds.entry]
      grind
  keys := by simpa using holds.keys
  index := by simpa using holds.index
  vacant j := by
    rw [modifySlot_free, modifySlot_length, holds.vacant, held?_store]
    split <;> simp
  free := holds.free
  length := by simpa using holds.length

/-! ### An entry less -/

section

variable [DecidableEq κ]

/-- Where every key stands once, the entries under other keys are those before and those behind. -/
theorem filter_key_ne {β : Type} (key : β → κ) {before after : List β} {b : β}
    (nodup : ((before ++ b :: after).map key).Nodup) :
    (before ++ b :: after).filter (fun other => key other ≠ key b) = before ++ after := by
  rw [List.map_append, List.map_cons, List.nodup_middle] at nodup
  have absent := nodup.notMem
  rw [← List.map_append] at absent
  have kept (other : β) (mem : other ∈ before ++ after) : key other ≠ key b := by
    intro same
    exact absent (same ▸ List.mem_map_of_mem mem)
  rw [List.filter_append, List.filter_cons_of_neg (by simp), ← List.filter_append,
    List.filter_eq_self]
  simpa using kept

/-- The step as it acts on a slot that is occupied. -/
theorem removeSlot_eq (occupied : s.held? i = some e) : s.removeSlot i =
    ({ s.detach i with
        slots := (s.detach i).slots.set i none
        index := s.index.filter (·.1 ≠ e.key)
        free := i :: s.free }, true) := by
  obtain ⟨slot, found, rfl⟩ := Option.map_eq_some_iff.mp ((held?_detach s i i).trans occupied)
  unfold removeSlot
  simp only [found, detach_index, detach_free]
  rfl

/-- The entry in a slot goes, and the slot is free. -/
theorem removeSlot (holds : s.Holds (before ++ (i, e) :: after)) :
    (s.removeSlot i).1.Holds (before ++ after) ∧ (s.removeSlot i).2 = true := by
  have occupied : s.held? i = some e := holds.entry_of_mem (by simp)
  have others := holds.notMem_others
  rw [removeSlot_eq occupied]
  have entry (j : Nat) : held? { s.detach i with
      slots := (s.detach i).slots.set i none
      index := s.index.filter (·.1 ≠ e.key)
      free := i :: s.free } j = if i = j then none else s.held? j := by
    rw [held?, slot?_vacate, ← held?_detach s i j, held?]
    split <;> rfl
  refine ⟨?_, rfl⟩
  constructor
  case linked =>
    have linked := holds.linked
    rw [List.map_append, List.map_cons] at linked
    have closed := linked.detach
    rw [← List.map_append] at closed
    refine closed.congr rfl rfl fun j mem => ?_
    have other : i ≠ j := fun same => others (same ▸ mem)
    rw [links?, slot?_vacate, if_neg other, links?]
  case entry =>
    intro j e'
    rw [entry]
    split
    · rename_i same
      subst same
      grind
    · rw [holds.entry]
      grind
  case keys =>
    have keys := holds.keys
    rw [List.map_append, List.map_cons, List.nodup_middle] at keys
    rw [List.map_append]
    exact keys.of_cons
  case index =>
    have rest := holds.index.filter (fun entry => decide (entry.1 ≠ e.key))
    rw [List.filter_map] at rest
    have same := filter_key_ne (fun cell : Nat × Entry κ α => cell.2.key) holds.keys
    exact same ▸ rest
  case vacant =>
    intro j
    rw [entry, List.mem_cons, holds.vacant]
    simp only [List.length_set, detach_length]
    split
    · rename_i same
      subst same
      have inside : i < s.slots.length := lt_of_held? occupied
      simpa using inside
    · grind
  case free =>
    refine List.nodup_cons.mpr ⟨fun mem => ?_, holds.free⟩
    rw [((holds.vacant i).mp mem).2] at occupied
    cases occupied
  case length =>
    have length := holds.length
    simp only [List.length_append, List.length_cons, List.length_set, detach_length] at length ⊢
    omega

end

/-! ### An entry more -/

/-- An entry put into a slot that was free, with nothing else changed and nothing linked yet. -/
structure Placed (s t : Slab κ α) (i : Nat) (slot : Slot κ α) : Prop where
  vacant : s.held? i = none
  slots : ∀ j, t.slot? j = if i = j then some slot else s.slot? j
  head : t.head = s.head
  tail : t.tail = s.tail
  index : t.index = s.index
  free : t.free.Nodup
  free_iff : ∀ j, j ∈ t.free ↔ j < t.slots.length ∧ t.held? j = none
  length : t.slots.length + s.free.length = s.slots.length + 1 + t.free.length

theorem held?_of_slots {t : Slab κ α} {slot : Slot κ α}
    (slots : ∀ j, t.slot? j = if i = j then some slot else s.slot? j) (j : Nat) :
    t.held? j = if i = j then some slot.entry else s.held? j := by
  unfold held?
  rw [slots]
  split <;> rfl

theorem placed_again {rest : List Nat} (holds : s.Holds cells) (free : s.free = i :: rest)
    (slot : Slot κ α) :
    Placed s { s with slots := s.slots.set i (some slot), free := rest } i slot := by
  have vacant := holds.vacant
  have nodup := holds.free
  rw [free] at vacant nodup
  obtain ⟨inside, vacant_here⟩ := (vacant i).mp List.mem_cons_self
  have slots (j : Nat) : slot? { s with slots := s.slots.set i (some slot), free := rest } j =
      if i = j then some slot else s.slot? j := by
    unfold slot?
    rw [List.getElem?_set]
    split <;> simp_all
  refine ⟨vacant_here, slots, rfl, rfl, rfl, nodup.of_cons, ?_, ?_⟩
  · intro j
    have apart := nodup.notMem
    rw [held?_of_slots slots, List.length_set]
    split
    · rename_i same
      subst same
      simp [apart]
    · rename_i other
      rw [← vacant, List.mem_cons]
      exact ⟨.inr, fun mem => mem.resolve_left fun same => other same.symm⟩
  · simp only [free, List.length_set, List.length_cons]
    omega

theorem placed_behind (holds : s.Holds cells) (free : s.free = []) (slot : Slot κ α) :
    Placed s { s with slots := s.slots ++ [some slot] } s.slots.length slot := by
  have vacant := holds.vacant
  rw [free] at vacant
  have outside : s.held? s.slots.length = none := by simp [held?, slot?]
  have slots (j : Nat) : slot? { s with slots := s.slots ++ [some slot] } j =
      if s.slots.length = j then some slot else s.slot? j := by
    unfold slot?
    rw [List.getElem?_append]
    grind
  refine ⟨outside, slots, rfl, rfl, rfl, holds.free, ?_, ?_⟩
  · intro j
    rw [held?_of_slots slots, free, vacant, List.length_append, List.length_singleton]
    split
    · rename_i same
      subst same
      simp
    · rename_i other
      refine and_congr_left fun _ => ?_
      omega
  · rw [List.length_append, List.length_singleton]

theorem allocate (holds : s.Holds cells) (slot : Slot κ α) :
    Placed s (s.allocate slot).1 (s.allocate slot).2 slot := by
  unfold Slab.allocate
  split
  · rename_i i rest free
    exact holds.placed_again free slot
  · rename_i free
    exact holds.placed_behind free slot

/-- An entry under a new key goes to the front, in some slot. -/
theorem insertFront (holds : s.Holds cells) {key : κ} (value : α) (now : Nat)
    (fresh : ∀ cell ∈ cells, cell.2.key ≠ key) :
    ∃ i, (s.insertFront key value now).Holds ((i, ⟨key, value, now⟩) :: cells) := by
  have placed := holds.allocate ⟨key, value, now, none, none⟩
  revert placed
  unfold Slab.insertFront
  generalize s.allocate ⟨key, value, now, none, none⟩ = allocated
  obtain ⟨t, i⟩ := allocated
  intro placed
  dsimp only at placed ⊢
  have outside := holds.notMem_of_vacant placed.vacant
  have entry (j : Nat) :
      Slab.held? (Slab.pushFront { t with index := (key, i) :: t.index } i) j = t.held? j :=
    held?_pushFront _ i j
  refine ⟨i, ?_⟩
  constructor
  case linked =>
    refine Linked.pushFront ?_ outside ?_
    · refine holds.linked.congr placed.head placed.tail fun j mem => ?_
      have other : i ≠ j := fun same => outside (same ▸ mem)
      show (t.slot? j).map _ = _
      rw [placed.slots, if_neg other]
      rfl
    · show ((t.slot? i).map _).isSome
      rw [placed.slots, if_pos rfl]
      rfl
  case entry =>
    intro j e
    rw [entry, held?_of_slots placed.slots]
    split
    · rename_i same
      subst same
      have apart : (i, e) ∉ cells := fun mem => outside (List.mem_map_of_mem mem)
      simp [apart, Slot.entry, eq_comm]
    · rename_i other
      rw [holds.entry, List.mem_cons, Prod.mk.injEq]
      simp [Ne.symm other]
  case keys =>
    refine List.nodup_cons.mpr ⟨fun mem => ?_, holds.keys⟩
    obtain ⟨cell, mem, same⟩ := List.mem_map.mp mem
    exact fresh cell mem same
  case index =>
    rw [pushFront_index, placed.index]
    exact holds.index.cons _
  case vacant =>
    intro j
    rw [pushFront_free, pushFront_length, placed.free_iff, entry]
  case free =>
    rw [pushFront_free]
    exact placed.free
  case length =>
    have length := holds.length
    have more := placed.length
    rw [pushFront_length, pushFront_free, List.length_cons]
    dsimp only
    omega

/-! ### Room for an entry -/

/-- The entries used longest ago go until there is room for one more. -/
theorem shrink [DecidableEq κ] {capacity : Nat} (positive : 0 < capacity) {fuel : Nat}
    (holds : s.Holds cells) (enough : cells.length ≤ fuel) :
    (s.shrink capacity fuel).1.Holds (cells.take (capacity - 1)) ∧
      (s.shrink capacity fuel).2 = cells.length - (capacity - 1) := by
  induction fuel generalizing s cells with
  | zero =>
    cases List.length_eq_zero_iff.mp (Nat.le_zero.mp enough)
    simpa [Slab.shrink] using holds
  | succ fuel ih =>
    rw [Slab.shrink, holds.index_length]
    by_cases room : cells.length < capacity
    · rw [if_pos room, List.take_of_length_le (by omega)]
      exact ⟨holds, by dsimp only; omega⟩
    · rw [if_neg room]
      rcases cells.eq_nil_or_concat' with rfl | ⟨init, ⟨i, e⟩, rfl⟩
      · simp only [List.length_nil] at room
        omega
      · have last : s.tail = some i := by simp [holds.linked.tail]
        have shorter : (s.removeSlot i).1.Holds (init ++ []) := holds.removeSlot.1
        rw [List.append_nil] at shorter
        rw [last]
        rw [List.length_append, List.length_singleton] at enough room ⊢
        obtain ⟨kept, count⟩ := ih shorter (by omega)
        refine ⟨?_, ?_⟩
        · rw [List.take_append_of_le_length (by omega)]
          exact kept
        · dsimp only
          omega

/-! ### Reading -/

theorem entries_eq (holds : s.Holds cells) : s.entries.map Slot.entry = cells.map (·.2) := by
  have enough : (cells.map (·.1)).length ≤ s.slots.length := by
    rw [List.length_map, holds.length]
    omega
  have walk := holds.linked.entries_eq enough
  have entries : (cells.map (·.1)).map s.held? = cells.map (some ·.2) := by
    rw [List.map_map]
    exact List.map_congr_left fun cell mem => holds.entry_of_mem mem
  rw [entries] at walk
  have unwrapped := congrArg (List.filterMap id) walk
  simpa [List.filterMap_map, Function.comp_def] using unwrapped

end Holds

end Slab

end MockApi.Cache
