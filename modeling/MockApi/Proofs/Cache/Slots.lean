import MockApi.Proofs.Cache.Checked

/-!
# No slot is lost

The links of the slots, the index and the list of vacant slots fit each other after every history of operations: what the
chain visits is what the index leads to, every other slot waits to be used again, and there are no more slots than entries
the cache has room for (`run_wellFormed`).
-/

namespace MockApi.Cache

variable {κ α : Type}

namespace Slab

/-- Going from slot to slot, from `cursor` on, meets these slots and then ends. -/
def Visits (s : Slab κ α) (link : Slot κ α → Option Nat) : Option Nat → List Nat → Prop
  | cursor, [] => cursor = none
  | cursor, i :: order => cursor = some i ∧ ∃ slot, s.slot? i = some slot ∧ s.Visits link (link slot) order

/-- The slots are used once each: those of the chain, which come in this order, or those that wait. -/
structure WellFormed [DecidableEq κ] (s : Slab κ α) (order : List Nat) : Prop where
  forward : s.Visits (·.next) s.head order
  backward : s.Visits (·.previous) s.tail order.reverse
  last : order.getLast? = s.tail
  once : order.Nodup
  occupied : ∀ i, i ∈ order ↔ (s.slot? i).isSome
  indexed : ∀ i, i ∈ order ↔ ∃ key, (key, i) ∈ s.index
  /-- A key is in the index once, and leads to the one slot that holds it. -/
  index : (s.index.map (·.1)).Nodup ∧ ∀ key i, s.find? key = some i ↔ ∃ slot, s.slot? i = some slot ∧ slot.key = key
  vacant : ∀ i, i ∈ s.free ↔ i < s.slots.length ∧ s.slot? i = none
  free : s.free.Nodup
  length : s.slots.length = s.index.length + s.free.length

variable {s : Slab κ α} {cells : List (Nat × Entry κ α)}

/-! ### The chain in both directions -/

theorem Linked.forward (before rest : List Nat) (linked : s.Linked (before ++ rest)) :
    s.Visits (·.next) rest.head? rest := by
  induction rest generalizing before with
  | nil => rfl
  | cons i rest ih =>
    obtain ⟨slot, found, links⟩ := Option.map_eq_some_iff.mp (linked.links before i rest rfl)
    obtain ⟨-, next⟩ := Prod.mk.inj links
    refine ⟨rfl, slot, found, ?_⟩
    show s.Visits _ slot.next rest
    rw [next]
    exact ih (before ++ [i]) (by simpa using linked)

theorem Linked.backward (rest after : List Nat) (linked : s.Linked (rest.reverse ++ after)) :
    s.Visits (·.previous) rest.head? rest := by
  induction rest generalizing after with
  | nil => rfl
  | cons i rest ih =>
    rw [List.reverse_cons, List.append_assoc, List.singleton_append] at linked
    obtain ⟨slot, found, links⟩ := Option.map_eq_some_iff.mp (linked.links rest.reverse i after rfl)
    obtain ⟨previous, -⟩ := Prod.mk.inj links
    refine ⟨rfl, slot, found, ?_⟩
    show s.Visits _ slot.previous rest
    rw [previous, List.getLast?_reverse]
    exact ih (i :: after) linked

/-! ### Slabs that hold their entries -/

namespace Holds

theorem mem_order_iff (holds : s.Holds cells) (i : Nat) : i ∈ cells.map (·.1) ↔ (s.slot? i).isSome := by
  rw [isSome_slot?]
  refine ⟨holds.isSome_held?, fun occupied => ?_⟩
  obtain ⟨e, held⟩ := Option.isSome_iff_exists.mp occupied
  exact List.mem_map.mpr ⟨(i, e), (holds.entry i e).mp held, rfl⟩

theorem mem_index_iff (holds : s.Holds cells) (key : κ) (i : Nat) :
    (key, i) ∈ s.index ↔ ∃ slot, s.slot? i = some slot ∧ slot.key = key := by
  rw [holds.index.mem_iff, List.mem_map]
  constructor
  · rintro ⟨⟨j, e⟩, mem, same⟩
    obtain ⟨rfl, rfl⟩ := Prod.mk.inj same
    obtain ⟨slot, found, rfl⟩ := Option.map_eq_some_iff.mp (holds.entry_of_mem mem)
    exact ⟨slot, found, rfl⟩
  · rintro ⟨slot, found, rfl⟩
    have held : s.held? i = some slot.entry := by rw [held?, found]; rfl
    exact ⟨(i, slot.entry), (holds.entry i _).mp held, rfl⟩

theorem index_nodup (holds : s.Holds cells) : (s.index.map (·.1)).Nodup := by
  refine ((holds.index.map (·.1)).nodup_iff).mpr ?_
  rw [List.map_map]
  exact holds.keys

variable [DecidableEq κ]

theorem find?_eq_some_iff (holds : s.Holds cells) (key : κ) (i : Nat) :
    s.find? key = some i ↔ ∃ slot, s.slot? i = some slot ∧ slot.key = key := by
  constructor
  · intro found
    obtain ⟨before, e, after, rfl, rfl⟩ := holds.find?_eq_some found
    obtain ⟨slot, there, same⟩ := Option.map_eq_some_iff.mp (holds.entry_of_mem (List.mem_append_right _ List.mem_cons_self))
    exact ⟨slot, there, congrArg Entry.key same⟩
  · intro stored
    have listed := (holds.mem_index_iff key i).mpr stored
    obtain ⟨before, after, split⟩ := List.append_of_mem listed
    have keys := holds.index_nodup
    rw [split, List.map_append, List.map_cons, List.nodup_middle, ← List.map_append] at keys
    have found : s.index.find? (·.1 = key) = some (key, i) := by
      rw [split, List.find?_eq_some_iff_append]
      refine ⟨by simp, before, after, rfl, fun other mem => ?_⟩
      have apart : other.1 ≠ key := fun same =>
        keys.notMem (List.mem_map.mpr ⟨other, List.mem_append_left after mem, same⟩)
      simpa using apart
    rw [find?, found]
    rfl

theorem wellFormed (holds : s.Holds cells) : s.WellFormed (cells.map (·.1)) where
  forward := by
    rw [holds.linked.head]
    exact Linked.forward [] _ holds.linked
  backward := by
    rw [holds.linked.tail, ← List.head?_reverse]
    exact Linked.backward _ [] (by simpa using holds.linked)
  last := holds.linked.tail.symm
  once := holds.linked.nodup
  occupied := holds.mem_order_iff
  indexed i := by
    rw [holds.mem_order_iff, Option.isSome_iff_exists]
    simp only [holds.mem_index_iff]
    constructor
    · rintro ⟨slot, found⟩
      exact ⟨slot.key, slot, found, rfl⟩
    · rintro ⟨key, slot, found, -⟩
      exact ⟨slot, found⟩
  index := ⟨holds.index_nodup, holds.find?_eq_some_iff⟩
  vacant i := by rw [holds.vacant, held?, Option.map_eq_none_iff]
  free := holds.free
  length := by rw [holds.index_length, holds.length]

end Holds

/-! ### How many slots there are -/

@[simp] theorem moveToFront_length (s : Slab κ α) (i : Nat) : (s.moveToFront i).slots.length = s.slots.length := by
  rw [moveToFront, pushFront_length, detach_length]

variable [DecidableEq κ]

@[simp] theorem removeSlot_length (s : Slab κ α) (i : Nat) : (s.removeSlot i).1.slots.length = s.slots.length := by
  unfold removeSlot
  dsimp only
  split
  · exact detach_length s i
  · exact List.length_set.trans (detach_length s i)

@[simp] theorem shrink_length (s : Slab κ α) (capacity fuel : Nat) :
    (s.shrink capacity fuel).1.slots.length = s.slots.length := by
  induction fuel generalizing s with
  | zero => rfl
  | succ fuel ih =>
    unfold shrink
    split
    · rfl
    · split
      · rfl
      · exact (ih _).trans (removeSlot_length s _)

omit [DecidableEq κ] in
/-- There is a slot more only if none was vacant, so if all of them held entries. -/
theorem Holds.insertFront_length_le (holds : s.Holds cells) (key : κ) (value : α) (now : Nat) :
    (s.insertFront key value now).slots.length ≤ max s.slots.length (cells.length + 1) := by
  have length := holds.length
  unfold Slab.insertFront Slab.allocate
  cases free : s.free with
  | nil =>
    simp only [pushFront_length, List.length_append, List.length_singleton]
    rw [free, List.length_nil] at length
    omega
  | cons i rest =>
    simp only [pushFront_length, List.length_set]
    omega

end Slab

/-! ### Histories -/

variable [DecidableEq κ] {capacity : Nat} {ttl : Option Nat} {c : Cache κ α} {r : Recency κ α}

/-- The cache after a history of operations, every one of them at its time. -/
def run (c : Cache κ α) (history : List (Nat × Operation κ α)) : Cache κ α :=
  history.foldl (fun c entry => (c.step entry.1 entry.2).1) c

/-- Building a value that is missing is done by the operations of a history. -/
theorem getOrBuild_eq_run {ε : Type} (c : Cache κ α) (now : Nat) (key : κ) (build : Except ε α) :
    ∃ history, (c.getOrBuild now key build).1 = c.run history := by
  unfold getOrBuild
  rcases got : c.get now key with ⟨c', _ | value⟩
  · have missed : (c.step now (.get key)).1 = c' := congrArg Prod.fst got
    cases build with
    | ok value => exact ⟨[(now, .get key), (now, .set key value)], by rw [← missed]; rfl⟩
    | error e => exact ⟨[(now, .get key)], missed.symm⟩
  · exact ⟨[(now, .get key)], (congrArg Prod.fst got).symm⟩

namespace Refines

/-- One operation needs no more slots than there is room for entries. -/
theorem step_length (refines : Refines capacity ttl c r) (few : c.slab.slots.length ≤ capacity) (now : Nat)
    (operation : Operation κ α) : (c.step now operation).1.slab.slots.length ≤ capacity := by
  cases operation with
  | get key =>
    simp only [Cache.step, Cache.get]
    split
    · exact few
    · split
      · exact Nat.le_trans (Nat.le_of_eq (Slab.moveToFront_length ..)) few
      · exact Nat.le_trans (Nat.le_of_eq (Slab.removeSlot_length ..)) few
  | set key value =>
    simp only [Cache.step, Cache.set]
    split
    · simpa using few
    · obtain ⟨cells, holds, -⟩ := refines.holds
      have positive := refines.positive
      have kept := (holds.shrink positive (Nat.le_of_eq holds.index_length.symm)).1
      have grown := kept.insertFront_length_le key value now
      simp only [Slab.shrink_length, List.length_take] at grown
      rw [refines.capacity]
      dsimp only
      omega
  | has key =>
    simp only [Cache.step, Cache.has]
    split
    · exact few
    · split
      · exact few
      · exact Nat.le_trans (Nat.le_of_eq (Slab.removeSlot_length ..)) few
  | delete key =>
    simp only [Cache.step, Cache.delete]
    split
    · exact few
    · exact Nat.le_trans (Nat.le_of_eq (Slab.removeSlot_length ..)) few
  | clear => exact Nat.zero_le _

theorem run (refines : Refines capacity ttl c r) (few : c.slab.slots.length ≤ capacity)
    (history : List (Nat × Operation κ α)) :
    ∃ r', Refines capacity ttl (c.run history) r' ∧ (c.run history).slab.slots.length ≤ capacity := by
  induction history generalizing c r with
  | nil => exact ⟨r, refines, few⟩
  | cons entry history ih =>
    obtain ⟨now, operation⟩ := entry
    exact ih (refines.step now operation).1 (refines.step_length few now operation)

end Refines

/-- From the empty cache on, every history leaves a slab whose links, index and vacant slots fit each other, with no more
slots than there is room for entries; and no operation of the history names a slot that is missing. -/
theorem run_wellFormed (capacity : Nat) (ttl : Option Nat) (history : List (Nat × Operation κ α)) :
    (∃ order, ((empty capacity ttl).run history).slab.WellFormed order) ∧
      ((empty capacity ttl).run history).slab.slots.length ≤ ((empty capacity ttl).run history).capacity ∧
      ((empty capacity ttl).run history).capacity = max capacity 1 ∧
      (empty capacity ttl).trace? history = some ((empty capacity ttl).trace history) := by
  have start : Refines (max capacity 1) ttl (empty capacity ttl : Cache κ α) .empty := refines_empty capacity ttl
  obtain ⟨r, refines, few⟩ := start.run (Nat.zero_le _) history
  obtain ⟨cells, holds, -⟩ := refines.holds
  refine ⟨⟨_, holds.wellFormed⟩, ?_, refines.capacity, start.trace?_eq history⟩
  rw [refines.capacity]
  exact few

end MockApi.Cache
