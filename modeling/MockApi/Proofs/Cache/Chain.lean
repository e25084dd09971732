import MockApi.Cache.Recency
import MockApi.Cache.Slab
import Mathlib.Data.List.Nodup

/-!
# The chain of slots

What one step does to the links of every slot, and from that what it does to the order in which the
chain visits them. Links and entries change apart from each other: no step on the chain touches an
entry.
-/

namespace MockApi.Cache

variable {κ α : Type}

/-- What a slot holds, without its links. -/
def Slot.entry (slot : Slot κ α) : Entry κ α := ⟨slot.key, slot.value, slot.storedAt⟩

namespace Slab

/-- What a slot holds, without its links. -/
def held? (s : Slab κ α) (i : Nat) : Option (Entry κ α) := (s.slot? i).map Slot.entry

/-- The slots before and behind a slot. -/
def links? (s : Slab κ α) (i : Nat) : Option (Option Nat × Option Nat) :=
  (s.slot? i).map fun slot => (slot.previous, slot.next)

variable {s : Slab κ α} {i j : Nat}

theorem links?_isSome : (s.links? i).isSome = (s.held? i).isSome := by
  simp [links?, held?]

/-! ### One slot -/

theorem slot?_modifySlot (s : Slab κ α) (i j : Nat) (f : Slot κ α → Slot κ α) :
    (s.modifySlot i f).slot? j = if i = j then (s.slot? j).map f else s.slot? j := by
  unfold slot? modifySlot
  rw [List.getElem?_modify]
  cases s.slots[j]? <;> split <;> simp

theorem lt_of_held? {e : Entry κ α} (occupied : s.held? i = some e) : i < s.slots.length := by
  by_contra outside
  rw [held?, slot?, List.getElem?_eq_none (by omega)] at occupied
  cases occupied

theorem slot?_vacate (s : Slab κ α) (index : List (κ × Nat)) (free : List Nat) (i j : Nat) :
    slot? { s with slots := s.slots.set i none, index, free } j =
      if i = j then none else s.slot? j := by
  unfold slot?
  rw [List.getElem?_set]
  split
  · split <;> rfl
  · rfl

theorem held?_modifySlot {f : Slot κ α → Slot κ α} (same : ∀ slot, (f slot).entry = slot.entry) :
    (s.modifySlot i f).held? j = s.held? j := by
  unfold held?
  rw [slot?_modifySlot]
  split
  · rw [Option.map_map]
    exact congrArg (Option.map · _) (funext same)
  · rfl

theorem links?_modifySlot {f : Slot κ α → Slot κ α}
    (same : ∀ slot, (f slot).previous = slot.previous ∧ (f slot).next = slot.next) :
    (s.modifySlot i f).links? j = s.links? j := by
  unfold links?
  rw [slot?_modifySlot]
  split
  · rw [Option.map_map]
    exact congrArg (Option.map · _) (funext fun slot => by simp [same])
  · rfl

@[simp] theorem modifySlot_index (f : Slot κ α → Slot κ α) : (s.modifySlot i f).index = s.index := rfl

@[simp] theorem modifySlot_free (f : Slot κ α → Slot κ α) : (s.modifySlot i f).free = s.free := rfl

@[simp] theorem modifySlot_length (f : Slot κ α → Slot κ α) :
    (s.modifySlot i f).slots.length = s.slots.length := List.length_modify ..

@[simp] theorem modifySlot_head (f : Slot κ α → Slot κ α) : (s.modifySlot i f).head = s.head := rfl

@[simp] theorem modifySlot_tail (f : Slot κ α → Slot κ α) : (s.modifySlot i f).tail = s.tail := rfl

/-! ### Links -/

theorem held?_setNext (before next : Option Nat) : (s.setNext before next).held? j = s.held? j := by
  cases before with
  | none => rfl
  | some i => exact held?_modifySlot fun _ => rfl

theorem held?_setPrevious (behind previous : Option Nat) :
    (s.setPrevious behind previous).held? j = s.held? j := by
  cases behind with
  | none => rfl
  | some i => exact held?_modifySlot fun _ => rfl

theorem links?_setNext (before next : Option Nat) :
    (s.setNext before next).links? j =
      (s.links? j).map fun links => (links.1, if before = some j then next else links.2) := by
  unfold links?
  cases before with
  | none => simp [setNext, slot?, Function.comp_def]
  | some i =>
    simp only [setNext, slot?_modifySlot, Option.some.injEq]
    split <;> simp [Function.comp_def]

theorem links?_setPrevious (behind previous : Option Nat) :
    (s.setPrevious behind previous).links? j =
      (s.links? j).map fun links => (if behind = some j then previous else links.1, links.2) := by
  unfold links?
  cases behind with
  | none => simp [setPrevious, slot?, Function.comp_def]
  | some i =>
    simp only [setPrevious, slot?_modifySlot, Option.some.injEq]
    split <;> simp [Function.comp_def]

@[simp] theorem setNext_index (before next : Option Nat) :
    (s.setNext before next).index = s.index := by cases before <;> rfl

@[simp] theorem setNext_free (before next : Option Nat) :
    (s.setNext before next).free = s.free := by cases before <;> rfl

@[simp] theorem setNext_length (before next : Option Nat) :
    (s.setNext before next).slots.length = s.slots.length := by
  cases before with
  | none => rfl
  | some i => exact modifySlot_length _

theorem setNext_head (before next : Option Nat) :
    (s.setNext before next).head = if before = none then next else s.head := by
  cases before <;> rfl

@[simp] theorem setNext_tail (before next : Option Nat) :
    (s.setNext before next).tail = s.tail := by cases before <;> rfl

@[simp] theorem setPrevious_index (behind previous : Option Nat) :
    (s.setPrevious behind previous).index = s.index := by cases behind <;> rfl

@[simp] theorem setPrevious_free (behind previous : Option Nat) :
    (s.setPrevious behind previous).free = s.free := by cases behind <;> rfl

@[simp] theorem setPrevious_length (behind previous : Option Nat) :
    (s.setPrevious behind previous).slots.length = s.slots.length := by
  cases behind with
  | none => rfl
  | some i => exact modifySlot_length _

@[simp] theorem setPrevious_head (behind previous : Option Nat) :
    (s.setPrevious behind previous).head = s.head := by cases behind <;> rfl

theorem setPrevious_tail (behind previous : Option Nat) :
    (s.setPrevious behind previous).tail = if behind = none then previous else s.tail := by
  cases behind <;> rfl

/-! ### Taking a slot out -/

theorem held?_detach (s : Slab κ α) (i j : Nat) : (s.detach i).held? j = s.held? j := by
  unfold detach
  split
  · rfl
  · refine (held?_modifySlot ?_).trans ?_
    · exact fun _ => rfl
    · rw [held?_setPrevious, held?_setNext]

@[simp] theorem detach_index (s : Slab κ α) (i : Nat) : (s.detach i).index = s.index := by
  unfold detach
  split <;> simp

@[simp] theorem detach_free (s : Slab κ α) (i : Nat) : (s.detach i).free = s.free := by
  unfold detach
  split <;> simp

@[simp] theorem detach_length (s : Slab κ α) (i : Nat) :
    (s.detach i).slots.length = s.slots.length := by
  unfold detach
  split <;> simp

section

variable {previous next : Option Nat} (links : s.links? i = some (previous, next))
include links

/-- The step as it acts on a slot that is occupied. -/
theorem detach_eq : s.detach i = ((s.setNext previous next).setPrevious next previous).modifySlot i
    fun slot => { slot with previous := none, next := none } := by
  obtain ⟨slot, occupied, same⟩ := Option.map_eq_some_iff.mp links
  obtain ⟨rfl, rfl⟩ := Prod.mk.inj same
  rw [detach, occupied]

theorem detach_head : (s.detach i).head = if previous = none then next else s.head := by
  rw [detach_eq links, modifySlot_head, setPrevious_head, setNext_head]

theorem detach_tail : (s.detach i).tail = if next = none then previous else s.tail := by
  rw [detach_eq links, modifySlot_tail, setPrevious_tail, setNext_tail]

theorem links?_detach (other : i ≠ j) : (s.detach i).links? j = (s.links? j).map fun links =>
    (if next = some j then previous else links.1, if previous = some j then next else links.2) := by
  have unchanged (t : Slab κ α) (f : Slot κ α → Slot κ α) :
      (t.modifySlot i f).links? j = t.links? j := by
    rw [links?, slot?_modifySlot, if_neg other, links?]
  rw [detach_eq links, unchanged, links?_setPrevious, links?_setNext, Option.map_map]
  rfl

end

/-! ### Putting a slot at the head -/

/-- On the slots the step sets the links of the new head, and the link back of the old one. -/
theorem pushFront_slots (s : Slab κ α) (i : Nat) : (s.pushFront i).slots =
    ((s.modifySlot i fun slot => { slot with previous := none, next := s.head }).setPrevious
      s.head (some i)).slots := by
  unfold pushFront
  cases s.head <;> rfl

theorem slot?_pushFront (s : Slab κ α) (i j : Nat) : (s.pushFront i).slot? j =
    ((s.modifySlot i fun slot => { slot with previous := none, next := s.head }).setPrevious
      s.head (some i)).slot? j := by
  unfold slot?
  rw [pushFront_slots]

theorem held?_pushFront (s : Slab κ α) (i j : Nat) : (s.pushFront i).held? j = s.held? j := by
  unfold held?
  rw [slot?_pushFront, ← held?, held?_setPrevious]
  exact held?_modifySlot fun _ => rfl

@[simp] theorem pushFront_index (s : Slab κ α) (i : Nat) : (s.pushFront i).index = s.index := by
  unfold pushFront
  cases s.head <;> rfl

@[simp] theorem pushFront_free (s : Slab κ α) (i : Nat) : (s.pushFront i).free = s.free := by
  unfold pushFront
  cases s.head <;> rfl

@[simp] theorem pushFront_length (s : Slab κ α) (i : Nat) :
    (s.pushFront i).slots.length = s.slots.length := by
  unfold pushFront
  cases s.head <;> simp

theorem pushFront_tail (s : Slab κ α) (i : Nat) : (s.pushFront i).tail = s.tail.or (some i) := by
  unfold pushFront
  cases s.head <;> rfl

theorem links?_pushFront (s : Slab κ α) (i j : Nat) : (s.pushFront i).links? j =
    (s.links? j).map fun links => (if s.head = some j then some i else if i = j then none else links.1,
      if i = j then s.head else links.2) := by
  unfold links?
  rw [slot?_pushFront, ← links?, links?_setPrevious, links?, slot?_modifySlot]
  by_cases same : i = j <;> simp [same, Function.comp_def]

/-! ### The order of the chain -/

/-- The chain visits these slots in this order, and no slot twice. -/
structure Linked (s : Slab κ α) (order : List Nat) : Prop where
  nodup : order.Nodup
  head : s.head = order.head?
  tail : s.tail = order.getLast?
  links : ∀ before i after, order = before ++ i :: after →
    s.links? i = some (before.getLast?, after.head?)

theorem Linked.empty : (Slab.empty : Slab κ α).Linked [] where
  nodup := List.nodup_nil
  head := rfl
  tail := rfl
  links before i after split := by simp at split

/-- Only the links of these slots count, and the ends. -/
theorem Linked.congr {t : Slab κ α} {order : List Nat} (linked : s.Linked order)
    (head : t.head = s.head) (tail : t.tail = s.tail)
    (links : ∀ i ∈ order, t.links? i = s.links? i) : t.Linked order where
  nodup := linked.nodup
  head := head.trans linked.head
  tail := tail.trans linked.tail
  links before i after split := by
    rw [links i (by simp [split]), linked.links before i after split]

/-- An element of two lists one behind the other stands in the second or in the first. -/
theorem append_eq_append_cons {α : Type} {before after front back : List α} {a : α}
    (split : before ++ after = front ++ a :: back) :
    (∃ between, front = before ++ between ∧ after = between ++ a :: back) ∨
      ∃ between, before = front ++ a :: between ∧ back = between ++ after := by
  rcases List.append_eq_append_iff.mp split with ⟨between, front_eq, after_eq⟩ | ⟨between, before_eq, back_eq⟩
  · exact .inl ⟨between, front_eq, after_eq⟩
  · cases between with
    | nil => exact .inl ⟨[], by simpa using before_eq.symm, back_eq.symm⟩
    | cons first between =>
      cases back_eq
      exact .inr ⟨between, before_eq, rfl⟩

/-- A slot in the middle of the chain leaves it, and those around it close up. -/
theorem Linked.detach {before after : List Nat} (linked : s.Linked (before ++ i :: after)) :
    (s.detach i).Linked (before ++ after) := by
  have links := linked.links before i after rfl
  have nodup := linked.nodup
  have others : i ∉ before ++ after := (List.nodup_middle.mp nodup).notMem
  refine ⟨(List.nodup_middle.mp nodup).of_cons, ?_, ?_, ?_⟩
  · rw [detach_head links, linked.head]
    cases before <;> simp
  · rw [detach_tail links, linked.tail]
    cases after <;> simp
  intro front j back split
  have other : i ≠ j := by
    rintro rfl
    exact others (by simp [split])
  rw [links?_detach links other]
  rcases append_eq_append_cons split with ⟨between, rfl, rfl⟩ | ⟨between, rfl, rfl⟩
  · -- `j` comes behind the slot that leaves
    rw [linked.links (before ++ i :: between) j back (by simp)]
    have apart : before.getLast? ≠ some j := by
      intro last
      have := List.mem_of_getLast? last
      grind
    cases between with
    | nil => simp [apart]
    | cons first rest =>
      have different : first ≠ j := by grind
      simp [apart, different]
  · -- `j` comes before it
    rw [linked.links front j (between ++ i :: after) (by simp)]
    have apart : after.head? ≠ some j := by
      intro first
      have := List.mem_of_mem_head? first
      grind
    cases between with
    | nil => simp [apart]
    | cons first rest =>
      have different : (first :: rest).getLast? ≠ some j := by
        intro last
        have := List.mem_of_getLast? last
        grind
      simp [apart, different]

/-- A slot that is not in the chain becomes its head. -/
theorem Linked.pushFront {order : List Nat} (linked : s.Linked order) (outside : i ∉ order)
    (occupied : (s.links? i).isSome) : (s.pushFront i).Linked (i :: order) := by
  refine ⟨List.nodup_cons.mpr ⟨outside, linked.nodup⟩, rfl, ?_, ?_⟩
  · rw [pushFront_tail, linked.tail]
    cases order <;> simp [List.getLast?_cons]
  intro before j after split
  rw [links?_pushFront, linked.head]
  cases before with
  | nil =>
    obtain ⟨rfl, rfl⟩ := List.cons.inj split
    obtain ⟨links, found⟩ := Option.isSome_iff_exists.mp occupied
    have apart : order.head? ≠ some i := fun first => outside (List.mem_of_mem_head? first)
    simp [found, apart]
  | cons first rest =>
    obtain ⟨rfl, rfl⟩ := List.cons.inj split
    have other : i ≠ j := by
      rintro rfl
      exact outside (by simp)
    rw [linked.links rest j after rfl]
    have nodup := linked.nodup
    cases rest with
    | nil => simp [other]
    | cons second rest =>
      have different : second ≠ j := by grind
      simp [other, different]

/-! ### Walking along the chain -/

theorem Linked.chain_eq (before rest : List Nat) (linked : s.Linked (before ++ rest)) {fuel : Nat}
    (enough : rest.length ≤ fuel) : (s.chain rest.head? fuel).map some = rest.map s.slot? := by
  induction fuel generalizing before rest with
  | zero =>
    cases List.length_eq_zero_iff.mp (Nat.le_zero.mp enough)
    rfl
  | succ fuel ih =>
    cases rest with
    | nil => rfl
    | cons i rest =>
      obtain ⟨slot, found, links⟩ := Option.map_eq_some_iff.mp (linked.links before i rest rfl)
      obtain ⟨-, next⟩ := Prod.mk.inj links
      have behind := ih (before ++ [i]) rest (by simpa using linked)
        (by simpa using enough)
      simp [chain, found, next, behind]

/-- The walk from the head meets the slots of the chain in their order. -/
theorem Linked.entries_eq {order : List Nat} (linked : s.Linked order)
    (enough : order.length ≤ s.slots.length) :
    s.entries.map (some ·.entry) = order.map s.held? := by
  have walk := Linked.chain_eq [] order linked enough
  have entries := congrArg (List.map (Option.map Slot.entry)) walk
  rw [List.map_map, List.map_map, ← linked.head] at entries
  exact entries

end Slab

end MockApi.Cache
