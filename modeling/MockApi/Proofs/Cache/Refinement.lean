import MockApi.Cache
import MockApi.Proofs.Cache.Cells

/-!
# The cache keeps the order of use

A cache answers as the list of its entries in the order of their last use answers, whatever was done
to it before and whatever the clock said. One operation keeps the two together (`Refines.step`), and so
does a history of them (`trace_eq`).
-/

namespace MockApi.Cache

variable {κ α : Type}

/-- The cache holds the entries of the list in its order, and counted the same. -/
structure Refines (capacity : Nat) (ttl : Option Nat) (c : Cache κ α) (r : Recency κ α) : Prop where
  holds : ∃ cells, c.slab.Holds cells ∧ cells.map (·.2) = r.entries
  positive : 0 < capacity
  room : r.entries.length ≤ capacity
  capacity : c.capacity = capacity
  ttl : c.ttl = ttl
  hits : c.hits = r.hits
  misses : c.misses = r.misses
  evictions : c.evictions = r.evictions

variable {capacity now : Nat} {ttl : Option Nat} {c : Cache κ α} {r : Recency κ α}

theorem refines_empty (capacity : Nat) (ttl : Option Nat) :
    Refines (max capacity 1) ttl (empty capacity ttl : Cache κ α) Recency.empty where
  holds := ⟨[], .empty, rfl⟩
  positive := by omega
  room := Nat.zero_le _
  capacity := rfl
  ttl := rfl
  hits := rfl
  misses := rfl
  evictions := rfl

namespace Refines

/-- A cache with another slab keeps to a list that has the entries of that slab. -/
theorem change {c' : Cache κ α} {r' : Recency κ α} {cells : List (Nat × Entry κ α)}
    (refines : Refines capacity ttl c r) (holds : c'.slab.Holds cells)
    (entries : cells.map (·.2) = r'.entries) (room : cells.length ≤ capacity)
    (fixed : c'.capacity = c.capacity ∧ c'.ttl = c.ttl)
    (counts : c'.hits = r'.hits ∧ c'.misses = r'.misses ∧ c'.evictions = r'.evictions) :
    Refines capacity ttl c' r' where
  holds := ⟨cells, holds, entries⟩
  positive := refines.positive
  room := by rwa [← entries, List.length_map]
  capacity := fixed.1.trans refines.capacity
  ttl := fixed.2.trans refines.ttl
  hits := counts.1
  misses := counts.2.1
  evictions := counts.2.2

theorem isLive {i : Nat} {e : Entry κ α} (refines : Refines capacity ttl c r)
    (occupied : c.slab.held? i = some e) : c.isLive now i = !Recency.isExpired ttl now e := by
  obtain ⟨slot, found, rfl⟩ := Option.map_eq_some_iff.mp occupied
  rw [Cache.isLive, found, ← refines.ttl]
  rfl

theorem clear (refines : Refines capacity ttl c r) : Refines capacity ttl c.clear r.clear :=
  refines.change .empty rfl (Nat.zero_le _) ⟨rfl, rfl⟩
    ⟨refines.hits, refines.misses, refines.evictions⟩

end Refines

variable [DecidableEq κ]

namespace Refines

/-! ### Looking a key up -/

theorem find?_none {key : κ} (refines : Refines capacity ttl c r)
    (absent : c.slab.find? key = none) : r.find? key = none := by
  obtain ⟨cells, holds, entries⟩ := refines.holds
  rw [Recency.find?, ← entries, List.find?_eq_none]
  intro e listed
  obtain ⟨cell, mem, rfl⟩ := List.mem_map.mp listed
  simpa using holds.find?_eq_none absent cell mem

/-- The slot that the index leads to holds the entry that the list has under the key. -/
theorem find?_some {key : κ} {i : Nat} (refines : Refines capacity ttl c r)
    (found : c.slab.find? key = some i) :
    ∃ before e after, c.slab.Holds (before ++ (i, e) :: after) ∧ e.key = key ∧
      r.find? key = some e ∧ (before ++ after).map (·.2) = r.others key ∧
      (before ++ after).length < capacity := by
  obtain ⟨cells, holds, entries⟩ := refines.holds
  obtain ⟨before, e, after, rfl, rfl⟩ := holds.find?_eq_some found
  have keys : (r.entries.map (·.key)).Nodup := by
    rw [← entries, List.map_map]
    exact holds.keys
  have room := refines.room
  rw [List.map_append, List.map_cons] at entries
  rw [← entries] at keys room
  refine ⟨before, e, after, holds, rfl, ?_, ?_, ?_⟩
  · rw [Recency.find?, ← entries, List.find?_eq_some_iff_append]
    refine ⟨by simp, _, _, rfl, fun other mem => ?_⟩
    rw [List.map_append, List.map_cons, List.nodup_middle] at keys
    have apart : other.key ≠ e.key := by
      intro same
      exact keys.notMem (same ▸ List.mem_append_left _ (List.mem_map_of_mem mem))
    simpa using apart
  · rw [Recency.others, ← entries, List.map_append]
    exact (Slab.Holds.filter_key_ne _ keys).symm
  · simp only [List.length_append, List.length_cons, List.length_map] at room ⊢
    omega

/-! ### Operations -/

theorem drop {key : κ} {before after : List (Nat × Entry κ α)} {i : Nat} {e : Entry κ α}
    (refines : Refines capacity ttl c r) (holds : c.slab.Holds (before ++ (i, e) :: after))
    (others : (before ++ after).map (·.2) = r.others key) (room : (before ++ after).length < capacity) :
    Refines capacity ttl (c.drop i) { r with entries := r.others key } :=
  refines.change holds.removeSlot.1 others (Nat.le_of_lt room) ⟨rfl, rfl⟩
    ⟨refines.hits, refines.misses, refines.evictions⟩

theorem get (refines : Refines capacity ttl c r) (now : Nat) (key : κ) :
    Refines capacity ttl (c.get now key).1 (r.get ttl now key).1 ∧
      (c.get now key).2 = (r.get ttl now key).2 := by
  have miss {c : Cache κ α} {r : Recency κ α} (refines : Refines capacity ttl c r) :
      Refines capacity ttl { c with misses := c.misses + 1 } { r with misses := r.misses + 1 } :=
    { refines with misses := congrArg (· + 1) refines.misses }
  unfold Cache.get Recency.get
  cases found : c.slab.find? key with
  | none =>
    rw [refines.find?_none found]
    exact ⟨miss refines, rfl⟩
  | some i =>
    obtain ⟨before, e, after, holds, -, abstract, others, room⟩ := refines.find?_some found
    have occupied : c.slab.held? i = some e := holds.entry_of_mem (by simp)
    rw [abstract]
    simp only [refines.isLive occupied, Bool.not_eq_true']
    cases expired : Recency.isExpired ttl now e with
    | true =>
      exact ⟨miss (refines.drop holds others room), rfl⟩
    | false =>
      have moved := holds.moveToFront
      refine ⟨refines.change moved (congrArg (e :: ·) others) room ⟨rfl, rfl⟩
        ⟨congrArg (· + 1) refines.hits, refines.misses, refines.evictions⟩, ?_⟩
      have kept := moved.entry_of_mem List.mem_cons_self
      obtain ⟨slot, there, rfl⟩ := Option.map_eq_some_iff.mp kept
      exact congrArg (Option.map (·.value)) there

theorem has (refines : Refines capacity ttl c r) (now : Nat) (key : κ) :
    Refines capacity ttl (c.has now key).1 (r.has ttl now key).1 ∧
      (c.has now key).2 = (r.has ttl now key).2 := by
  unfold Cache.has Recency.has
  cases found : c.slab.find? key with
  | none =>
    rw [refines.find?_none found]
    exact ⟨refines, rfl⟩
  | some i =>
    obtain ⟨before, e, after, holds, -, abstract, others, room⟩ := refines.find?_some found
    have occupied : c.slab.held? i = some e := holds.entry_of_mem (by simp)
    rw [abstract]
    simp only [refines.isLive occupied, Bool.not_eq_true']
    cases expired : Recency.isExpired ttl now e with
    | true => exact ⟨refines.drop holds others room, rfl⟩
    | false => exact ⟨refines, rfl⟩

theorem delete (refines : Refines capacity ttl c r) (key : κ) :
    Refines capacity ttl (c.delete key).1 (r.delete key).1 ∧
      (c.delete key).2 = (r.delete key).2 := by
  unfold Cache.delete Recency.delete
  cases found : c.slab.find? key with
  | none =>
    have absent := refines.find?_none found
    have others : r.others key = r.entries := by
      rw [Recency.others, List.filter_eq_self]
      simpa [Recency.find?, List.find?_eq_none] using absent
    rw [absent, others]
    exact ⟨refines, rfl⟩
  | some i =>
    obtain ⟨before, e, after, holds, -, abstract, others, room⟩ := refines.find?_some found
    rw [abstract]
    exact ⟨refines.drop holds others room, holds.removeSlot.2⟩

theorem set (refines : Refines capacity ttl c r) (now : Nat) (key : κ) (value : α) :
    Refines capacity ttl (c.set now key value) (r.set capacity now key value) := by
  unfold Cache.set Recency.set
  cases found : c.slab.find? key with
  | none =>
    rw [refines.find?_none found]
    obtain ⟨cells, holds, entries⟩ := refines.holds
    have fresh := holds.find?_eq_none found
    have positive := refines.positive
    obtain ⟨kept, count⟩ := holds.shrink positive (Nat.le_of_eq holds.index_length.symm)
    obtain ⟨i, inserted⟩ := kept.insertFront value now fun cell mem =>
      fresh cell (List.mem_of_mem_take mem)
    rw [refines.capacity]
    refine refines.change inserted ?_ ?_ ⟨refines.capacity.symm, rfl⟩
      ⟨refines.hits, refines.misses, ?_⟩
    · simp [← entries, List.map_take]
    · simp only [List.length_cons, List.length_take]
      omega
    · simp [count, refines.evictions, ← entries]
  | some i =>
    obtain ⟨before, e, after, holds, same, abstract, others, room⟩ := refines.find?_some found
    rw [abstract]
    subst same
    exact refines.change (holds.store value now).moveToFront
      (congrArg (({ e with value, storedAt := now } : Entry κ α) :: ·) others) room ⟨rfl, rfl⟩
      ⟨refines.hits, refines.misses, refines.evictions⟩

end Refines

/-! ### Histories -/

/-- What can be done to a cache. -/
inductive Operation (κ α : Type)
  | get (key : κ)
  | set (key : κ) (value : α)
  | has (key : κ)
  | delete (key : κ)
  | clear

/-- What an operation answers. -/
inductive Answer (α : Type)
  | value (value : Option α)
  | flag (flag : Bool)
  | done

/-- What is seen of a cache after an operation. -/
structure View (κ α : Type) where
  answer : Answer α
  keys : List κ
  size : Nat
  stats : Stats

def step (c : Cache κ α) (now : Nat) : Operation κ α → Cache κ α × Answer α
  | .get key => ((c.get now key).1, .value (c.get now key).2)
  | .set key value => (c.set now key value, .done)
  | .has key => ((c.has now key).1, .flag (c.has now key).2)
  | .delete key => ((c.delete key).1, .flag (c.delete key).2)
  | .clear => (c.clear, .done)

def Recency.step (r : Recency κ α) (capacity : Nat) (ttl : Option Nat) (now : Nat) :
    Operation κ α → Recency κ α × Answer α
  | .get key => ((r.get ttl now key).1, .value (r.get ttl now key).2)
  | .set key value => (r.set capacity now key value, .done)
  | .has key => ((r.has ttl now key).1, .flag (r.has ttl now key).2)
  | .delete key => ((r.delete key).1, .flag (r.delete key).2)
  | .clear => (r.clear, .done)

/-- What is seen after each operation of a history, every one of them at its time. -/
def trace (c : Cache κ α) : List (Nat × Operation κ α) → List (View κ α)
  | [] => []
  | (now, operation) :: history =>
    let (c, answer) := c.step now operation
    ⟨answer, c.keys, c.size, c.stats⟩ :: trace c history

/-- What the list shows after each operation of a history. -/
def Recency.trace (r : Recency κ α) (capacity : Nat) (ttl : Option Nat) :
    List (Nat × Operation κ α) → List (View κ α)
  | [] => []
  | (now, operation) :: history =>
    let (r, answer) := r.step capacity ttl now operation
    ⟨answer, r.entries.map (·.key), r.entries.length,
      ⟨r.entries.length, capacity, r.hits, r.misses, r.evictions⟩⟩ :: trace r capacity ttl history

namespace Refines

theorem step (refines : Refines capacity ttl c r) (now : Nat) (operation : Operation κ α) :
    Refines capacity ttl (c.step now operation).1 (r.step capacity ttl now operation).1 ∧
      (c.step now operation).2 = (r.step capacity ttl now operation).2 := by
  cases operation with
  | get key =>
    obtain ⟨refines, same⟩ := refines.get now key
    exact ⟨refines, congrArg Answer.value same⟩
  | set key value => exact ⟨refines.set now key value, rfl⟩
  | has key =>
    obtain ⟨refines, same⟩ := refines.has now key
    exact ⟨refines, congrArg Answer.flag same⟩
  | delete key =>
    obtain ⟨refines, same⟩ := refines.delete key
    exact ⟨refines, congrArg Answer.flag same⟩
  | clear => exact ⟨refines.clear, rfl⟩

omit [DecidableEq κ] in
theorem keys_eq (refines : Refines capacity ttl c r) : c.keys = r.entries.map (·.key) := by
  obtain ⟨cells, holds, entries⟩ := refines.holds
  have keys := congrArg (List.map Entry.key) (holds.entries_eq.trans entries)
  rw [List.map_map] at keys
  exact keys

omit [DecidableEq κ] in
theorem size_eq (refines : Refines capacity ttl c r) : c.size = r.entries.length := by
  obtain ⟨cells, holds, entries⟩ := refines.holds
  rw [Cache.size, holds.index_length, ← entries, List.length_map]

omit [DecidableEq κ] in
theorem stats_eq (refines : Refines capacity ttl c r) :
    c.stats = ⟨r.entries.length, capacity, r.hits, r.misses, r.evictions⟩ := by
  rw [Cache.stats, refines.size_eq, refines.capacity, refines.hits, refines.misses,
    refines.evictions]

/-- A history shows the same on both sides, and never more entries than there is room for. -/
theorem trace_eq (refines : Refines capacity ttl c r) (history : List (Nat × Operation κ α)) :
    c.trace history = r.trace capacity ttl history ∧
      ∀ view ∈ c.trace history, view.size ≤ capacity := by
  induction history generalizing c r with
  | nil => exact ⟨rfl, nofun⟩
  | cons entry history ih =>
    obtain ⟨now, operation⟩ := entry
    obtain ⟨refines, answer⟩ := refines.step now operation
    obtain ⟨same, bounded⟩ := ih refines
    refine ⟨?_, ?_⟩
    · rw [Cache.trace, Recency.trace]
      simp only [answer, refines.keys_eq, refines.size_eq, refines.stats_eq, same]
    · rw [Cache.trace]
      intro view mem
      rcases List.mem_cons.mp mem with rfl | later
      · show (c.step now operation).1.size ≤ capacity
        rw [refines.size_eq]
        exact refines.room
      · exact bounded view later

end Refines

/-- From the empty cache on, every history shows what the list of entries in the order of their last
use shows, with room for `capacity` of them and for one at least. -/
theorem trace_empty (capacity : Nat) (ttl : Option Nat) (history : List (Nat × Operation κ α)) :
    (empty capacity ttl).trace history = Recency.empty.trace (max capacity 1) ttl history ∧
      ∀ view ∈ (empty capacity ttl : Cache κ α).trace history, view.size ≤ max capacity 1 :=
  (refines_empty capacity ttl).trace_eq history

end MockApi.Cache
