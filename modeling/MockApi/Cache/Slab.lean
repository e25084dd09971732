/-!
# Linked slots

Entries live in numbered slots. Occupied slots are linked in both directions from the entry used last to
the one used longest ago, an index leads from a key to its slot, and vacant slots wait in a list to be
used again. A step that names a vacant slot changes nothing.
-/

namespace MockApi.Cache

variable {κ α : Type}

/-- An entry, and the slots before and behind it. -/
structure Slot (κ α : Type) where
  key : κ
  value : α
  storedAt : Nat
  previous : Option Nat
  next : Option Nat

/-- The slots, with the ends of their chain. -/
structure Slab (κ α : Type) where
  slots : List (Option (Slot κ α))
  /-- Vacant slots; the first is used next. -/
  free : List Nat
  index : List (κ × Nat)
  head : Option Nat
  tail : Option Nat

namespace Slab

def empty : Slab κ α := ⟨[], [], [], none, none⟩

def slot? (s : Slab κ α) (i : Nat) : Option (Slot κ α) := s.slots[i]?.join

def modifySlot (s : Slab κ α) (i : Nat) (f : Slot κ α → Slot κ α) : Slab κ α :=
  { s with slots := s.slots.modify i (·.map f) }

def setNext (s : Slab κ α) (before : Option Nat) (next : Option Nat) : Slab κ α :=
  match before with
  | some i => s.modifySlot i fun slot => { slot with next }
  | none => { s with head := next }

def setPrevious (s : Slab κ α) (behind : Option Nat) (previous : Option Nat) : Slab κ α :=
  match behind with
  | some i => s.modifySlot i fun slot => { slot with previous }
  | none => { s with tail := previous }

def detach (s : Slab κ α) (i : Nat) : Slab κ α :=
  match s.slot? i with
  | none => s
  | some slot =>
    ((s.setNext slot.previous slot.next).setPrevious slot.next slot.previous).modifySlot i
      fun slot => { slot with previous := none, next := none }

def pushFront (s : Slab κ α) (i : Nat) : Slab κ α :=
  let linked := s.modifySlot i fun slot => { slot with previous := none, next := s.head }
  let linked := match s.head with
    | some head => linked.modifySlot head fun slot => { slot with previous := some i }
    | none => linked
  { linked with head := some i, tail := linked.tail.or (some i) }

def moveToFront (s : Slab κ α) (i : Nat) : Slab κ α := (s.detach i).pushFront i

section

variable [DecidableEq κ]

def find? (s : Slab κ α) (key : κ) : Option Nat :=
  (s.index.find? (·.1 = key)).map (·.2)

/-- The entry in a slot removed, and whether there was one. -/
def removeSlot (s : Slab κ α) (i : Nat) : Slab κ α × Bool :=
  let s := s.detach i
  match s.slot? i with
  | none => (s, false)
  | some slot => ({ s with
      slots := s.slots.set i none
      index := s.index.filter (·.1 ≠ slot.key)
      free := i :: s.free }, true)

/-- An entry put into a vacant slot, or into a new one behind the others; and its number. -/
def allocate (s : Slab κ α) (slot : Slot κ α) : Slab κ α × Nat :=
  match s.free with
  | i :: free => ({ s with slots := s.slots.set i (some slot), free }, i)
  | [] => ({ s with slots := s.slots ++ [some slot] }, s.slots.length)

def insertFront (s : Slab κ α) (key : κ) (value : α) (now : Nat) : Slab κ α :=
  let (s, i) := s.allocate ⟨key, value, now, none, none⟩
  { s with index := (key, i) :: s.index }.pushFront i

/-- Entries removed from the tail until fewer than `capacity` are left, at most `fuel` of them; and how
many. -/
def shrink (s : Slab κ α) (capacity : Nat) : Nat → Slab κ α × Nat
  | 0 => (s, 0)
  | fuel + 1 =>
    if s.index.length < capacity then (s, 0)
    else match s.tail with
      | none => (s, 0)
      | some tail =>
        let (s, removed) := shrink (s.removeSlot tail).1 capacity fuel
        (s, removed + 1)

end

/-- The slots of the chain from one on, at most `fuel` of them. -/
def chain (s : Slab κ α) (cursor : Option Nat) : Nat → List (Slot κ α)
  | 0 => []
  | fuel + 1 =>
    match cursor.bind s.slot? with
    | none => []
    | some slot => slot :: chain s slot.next fuel

def entries (s : Slab κ α) : List (Slot κ α) := s.chain s.head s.slots.length

end Slab

end MockApi.Cache
