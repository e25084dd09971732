import MockApi.Proofs.Cache.Refinement

/-!
# Missing slots

A step on a slab that names a vacant slot changes nothing, so a link to such a slot would go unnoticed. Here are the same
operations with every number of a slot checked: they fail where the slot that is read or changed is missing, where an entry
is put outside of the slots, and where a walk goes on longer than there are slots. On a slab that holds its entries none of
them fails, and each does what the operation without checks does (`step?_eq`).
-/

namespace MockApi.Cache

variable {κ α : Type}

namespace Slab

/-! ### Checked steps -/

def modifySlot? (s : Slab κ α) (i : Nat) (f : Slot κ α → Slot κ α) : Option (Slab κ α) :=
  if (s.slot? i).isSome then some (s.modifySlot i f) else none

def setNext? (s : Slab κ α) (before : Option Nat) (next : Option Nat) : Option (Slab κ α) :=
  match before with
  | some i => s.modifySlot? i fun slot => { slot with next }
  | none => some { s with head := next }

def setPrevious? (s : Slab κ α) (behind : Option Nat) (previous : Option Nat) : Option (Slab κ α) :=
  match behind with
  | some i => s.modifySlot? i fun slot => { slot with previous }
  | none => some { s with tail := previous }

def detach? (s : Slab κ α) (i : Nat) : Option (Slab κ α) := do
  let slot ← s.slot? i
  let s ← s.setNext? slot.previous slot.next
  let s ← s.setPrevious? slot.next slot.previous
  s.modifySlot? i fun slot => { slot with previous := none, next := none }

def pushFront? (s : Slab κ α) (i : Nat) : Option (Slab κ α) := do
  let linked ← s.modifySlot? i fun slot => { slot with previous := none, next := s.head }
  let linked ← match s.head with
    | some head => linked.modifySlot? head fun slot => { slot with previous := some i }
    | none => some linked
  return { linked with head := some i, tail := linked.tail.or (some i) }

def moveToFront? (s : Slab κ α) (i : Nat) : Option (Slab κ α) := do
  let s ← s.detach? i
  s.pushFront? i

/-- An entry put into a slot that is there, or into a new one behind the others. -/
def allocate? (s : Slab κ α) (slot : Slot κ α) : Option (Slab κ α × Nat) :=
  match s.free with
  | i :: free => if i < s.slots.length then some ({ s with slots := s.slots.set i (some slot), free }, i) else none
  | [] => some ({ s with slots := s.slots ++ [some slot] }, s.slots.length)

def insertFront? (s : Slab κ α) (key : κ) (value : α) (now : Nat) : Option (Slab κ α) := do
  let (s, i) ← s.allocate? ⟨key, value, now, none, none⟩
  { s with index := (key, i) :: s.index }.pushFront? i

/-- The slots of the chain from one on, if it ends before more than `fuel` of them are met. -/
def chain? (s : Slab κ α) : Option Nat → Nat → Option (List (Slot κ α))
  | none, _ => some []
  | some _, 0 => none
  | some i, fuel + 1 => do
    let slot ← s.slot? i
    let behind ← chain? s slot.next fuel
    return slot :: behind

def entries? (s : Slab κ α) : Option (List (Slot κ α)) := s.chain? s.head s.slots.length

section

variable [DecidableEq κ]

def removeSlot? (s : Slab κ α) (i : Nat) : Option (Slab κ α) := do
  let s ← s.detach? i
  let slot ← s.slot? i
  return { s with
    slots := s.slots.set i none
    index := s.index.filter (·.1 ≠ slot.key)
    free := i :: s.free }

/-- Entries removed from the tail until fewer than `capacity` are left, which at most `fuel` removals must do. -/
def shrink? (s : Slab κ α) (capacity : Nat) : Nat → Option (Slab κ α × Nat)
  | 0 => if s.index.length < capacity then some (s, 0) else none
  | fuel + 1 =>
    if s.index.length < capacity then some (s, 0)
    else match s.tail with
      | none => some (s, 0)
      | some tail => do
        let s ← s.removeSlot? tail
        let (s, removed) ← shrink? s capacity fuel
        return (s, removed + 1)

end

end Slab

section

variable [DecidableEq κ]

def get? (c : Cache κ α) (now : Nat) (key : κ) : Option (Cache κ α × Option α) :=
  match c.slab.find? key with
  | none => some ({ c with misses := c.misses + 1 }, none)
  | some i => do
    let slot ← c.slab.slot? i
    if c.isExpired now slot then
      let slab ← c.slab.removeSlot? i
      return ({ c with slab, misses := c.misses + 1 }, none)
    else
      let slab ← c.slab.moveToFront? i
      let slot ← slab.slot? i
      return ({ c with slab, hits := c.hits + 1 }, some slot.value)

def set? (c : Cache κ α) (now : Nat) (key : κ) (value : α) : Option (Cache κ α) :=
  match c.slab.find? key with
  | some i => do
    let slab ← c.slab.modifySlot? i fun slot => { slot with value, storedAt := now }
    let slab ← slab.moveToFront? i
    return { c with slab }
  | none => do
    let (slab, evicted) ← c.slab.shrink? c.capacity c.slab.index.length
    let slab ← slab.insertFront? key value now
    return { c with slab, evictions := c.evictions + evicted }

def has? (c : Cache κ α) (now : Nat) (key : κ) : Option (Cache κ α × Bool) :=
  match c.slab.find? key with
  | none => some (c, false)
  | some i => do
    let slot ← c.slab.slot? i
    if c.isExpired now slot then
      let slab ← c.slab.removeSlot? i
      return ({ c with slab }, false)
    else
      return (c, true)

def delete? (c : Cache κ α) (key : κ) : Option (Cache κ α × Bool) :=
  match c.slab.find? key with
  | none => some (c, false)
  | some i => do
    let slab ← c.slab.removeSlot? i
    return ({ c with slab }, true)

def keys? (c : Cache κ α) : Option (List κ) := do
  let entries ← c.slab.entries?
  return entries.map (·.key)

def step? (c : Cache κ α) (now : Nat) : Operation κ α → Option (Cache κ α × Answer α)
  | .get key => do
    let (c, value) ← c.get? now key
    return (c, .value value)
  | .set key value => do
    let c ← c.set? now key value
    return (c, .done)
  | .has key => do
    let (c, flag) ← c.has? now key
    return (c, .flag flag)
  | .delete key => do
    let (c, flag) ← c.delete? key
    return (c, .flag flag)
  | .clear => some (c.clear, .done)

/-- What is seen after each operation of a history, if no number of a slot leads astray. -/
def trace? (c : Cache κ α) : List (Nat × Operation κ α) → Option (List (View κ α))
  | [] => some []
  | (now, operation) :: history => do
    let (c, answer) ← c.step? now operation
    let keys ← c.keys?
    let views ← trace? c history
    return ⟨answer, keys, c.size, c.stats⟩ :: views

end

/-! ### Links that lead to slots -/

namespace Slab

variable {s : Slab κ α} {cells before after : List (Nat × Entry κ α)} {i j : Nat} {e : Entry κ α}

/-- Every link that is set leads to an occupied slot. -/
def Leads (s : Slab κ α) (link : Option Nat) : Prop := ∀ i ∈ link, (s.held? i).isSome

theorem isSome_slot? : (s.slot? i).isSome = (s.held? i).isSome := by simp [held?]

theorem Leads.congr {t : Slab κ α} {link : Option Nat} (leads : s.Leads link) (same : ∀ i, t.held? i = s.held? i) :
    t.Leads link := fun i mem => same i ▸ leads i mem

theorem modifySlot?_eq (occupied : (s.held? i).isSome) (f : Slot κ α → Slot κ α) :
    s.modifySlot? i f = some (s.modifySlot i f) := if_pos (isSome_slot?.trans occupied)

theorem setNext?_eq {before : Option Nat} (leads : s.Leads before) (next : Option Nat) :
    s.setNext? before next = some (s.setNext before next) := by
  cases before with
  | none => rfl
  | some i => exact modifySlot?_eq (leads i rfl) _

theorem setPrevious?_eq {behind : Option Nat} (leads : s.Leads behind) (previous : Option Nat) :
    s.setPrevious? behind previous = some (s.setPrevious behind previous) := by
  cases behind with
  | none => rfl
  | some i => exact modifySlot?_eq (leads i rfl) _

theorem detach?_eq {previous next : Option Nat} (links : s.links? i = some (previous, next)) (back : s.Leads previous)
    (onward : s.Leads next) : s.detach? i = some (s.detach i) := by
  obtain ⟨slot, occupied, same⟩ := Option.map_eq_some_iff.mp links
  obtain ⟨rfl, rfl⟩ := Prod.mk.inj same
  have here : (s.held? i).isSome := by rw [← isSome_slot?, occupied]; rfl
  have onward' : (s.setNext slot.previous slot.next).Leads slot.next := onward.congr fun _ => held?_setNext ..
  have here' : (((s.setNext slot.previous slot.next).setPrevious slot.next slot.previous).held? i).isSome := by
    rw [held?_setPrevious, held?_setNext]
    exact here
  simp only [detach?, detach, occupied, setNext?_eq back, setPrevious?_eq onward', modifySlot?_eq here',
    Option.bind_eq_bind, Option.bind_some]

theorem pushFront?_eq (occupied : (s.held? i).isSome) (leads : s.Leads s.head) :
    s.pushFront? i = some (s.pushFront i) := by
  have kept (j : Nat) : (s.modifySlot i fun slot => { slot with previous := none, next := s.head }).held? j = s.held? j :=
    held?_modifySlot fun _ => rfl
  unfold pushFront? pushFront
  rw [modifySlot?_eq occupied, Option.bind_eq_bind, Option.bind_some]
  cases first : s.head with
  | none => rfl
  | some head =>
    have there : ((s.modifySlot i fun slot => { slot with previous := none, next := s.head }).held? head).isSome := by
      rw [kept]
      exact leads head first
    rw [first] at there
    dsimp only
    rw [modifySlot?_eq there]
    rfl

/-! ### Slabs that hold their entries -/

namespace Holds

/-- The slots of the chain are occupied. -/
theorem isSome_held? (holds : s.Holds cells) (mem : i ∈ cells.map (·.1)) : (s.held? i).isSome := by
  obtain ⟨⟨j, e⟩, cell, rfl⟩ := List.mem_map.mp mem
  rw [holds.entry_of_mem cell]
  rfl

theorem leads_head (holds : s.Holds cells) : s.Leads s.head := fun _ first =>
  holds.isSome_held? (List.mem_of_mem_head? (holds.linked.head ▸ first))

theorem detach? (holds : s.Holds (before ++ (i, e) :: after)) : s.detach? i = some (s.detach i) := by
  have links := holds.linked.links (before.map (·.1)) i (after.map (·.1)) (by simp)
  refine detach?_eq links (fun j last => holds.isSome_held? ?_) (fun j first => holds.isSome_held? ?_)
  · rw [List.map_append]
    exact List.mem_append_left _ (List.mem_of_getLast? last)
  · rw [List.map_append, List.map_cons]
    exact List.mem_append_right _ (List.mem_cons_of_mem _ (List.mem_of_mem_head? first))

theorem moveToFront? (holds : s.Holds (before ++ (i, e) :: after)) : s.moveToFront? i = some (s.moveToFront i) := by
  have occupied : ((s.detach i).held? i).isSome := by
    rw [held?_detach, holds.entry_of_mem (List.mem_append_right _ List.mem_cons_self)]
    rfl
  have linked := holds.linked
  rw [List.map_append, List.map_cons] at linked
  have leads : (s.detach i).Leads (s.detach i).head := by
    intro j first
    rw [linked.detach.head, ← List.map_append] at first
    rw [held?_detach]
    refine holds.isSome_held? ?_
    have mem := List.mem_of_mem_head? first
    simp only [List.map_append, List.map_cons, List.mem_append, List.mem_cons] at mem ⊢
    exact mem.imp_right .inr
  rw [Slab.moveToFront?, holds.detach?, Option.bind_eq_bind, Option.bind_some]
  exact pushFront?_eq occupied leads

/-- The slot that the free list gives is one of the slots. -/
theorem allocate? (holds : s.Holds cells) (slot : Slot κ α) : s.allocate? slot = some (s.allocate slot) := by
  unfold Slab.allocate? Slab.allocate
  cases free : s.free with
  | nil => rfl
  | cons i rest =>
    have inside : i < s.slots.length := ((holds.vacant i).mp (by rw [free]; exact List.mem_cons_self)).1
    exact if_pos inside

theorem insertFront? (holds : s.Holds cells) (key : κ) (value : α) (now : Nat) :
    s.insertFront? key value now = some (s.insertFront key value now) := by
  have placed := holds.allocate ⟨key, value, now, none, none⟩
  revert placed
  rw [Slab.insertFront?, Slab.insertFront, holds.allocate?, Option.bind_eq_bind, Option.bind_some]
  generalize s.allocate ⟨key, value, now, none, none⟩ = allocated
  obtain ⟨t, i⟩ := allocated
  intro placed
  dsimp only at placed ⊢
  have held (j : Nat) : held? { t with index := (key, i) :: t.index } j =
      if i = j then some ⟨key, value, now⟩ else s.held? j := held?_of_slots placed.slots j
  refine pushFront?_eq ?_ fun j first => ?_
  · rw [held, if_pos rfl]
    rfl
  · rw [held]
    split
    · rfl
    · exact holds.leads_head j (placed.head ▸ first)

/-- Along the chain the walk meets no slot that is missing, and comes to its end. -/
theorem chain?_eq (before rest : List Nat) (linked : s.Linked (before ++ rest)) {fuel : Nat} (enough : rest.length ≤ fuel) :
    s.chain? rest.head? fuel = some (s.chain rest.head? fuel) := by
  induction fuel generalizing before rest with
  | zero =>
    cases List.length_eq_zero_iff.mp (Nat.le_zero.mp enough)
    rfl
  | succ fuel ih =>
    cases rest with
    | nil => rfl
    | cons i rest =>
      obtain ⟨slot, found, links⟩ := Option.map_eq_some_iff.mp (linked.links before i rest rfl)
      obtain ⟨-, next⟩ := Prod.mk.inj links
      have behind := ih (before ++ [i]) rest (by simpa using linked) (by simpa using enough)
      simp [chain?, chain, found, next, behind]

theorem entries? (holds : s.Holds cells) : s.entries? = some s.entries := by
  have enough : (cells.map (·.1)).length ≤ s.slots.length := by
    rw [List.length_map, holds.length]
    omega
  rw [Slab.entries?, Slab.entries, holds.linked.head]
  exact chain?_eq [] _ holds.linked enough

section

variable [DecidableEq κ]

theorem removeSlot? (holds : s.Holds (before ++ (i, e) :: after)) : s.removeSlot? i = some (s.removeSlot i).1 := by
  obtain ⟨slot, found, -⟩ := Option.map_eq_some_iff.mp
    ((held?_detach s i i).trans (holds.entry_of_mem (List.mem_append_right _ List.mem_cons_self)))
  simp only [Slab.removeSlot?, Slab.removeSlot, holds.detach?, found, Option.bind_eq_bind, Option.bind_some]
  rfl

/-- Each removal leaves an entry less, so the removals come to their end. -/
theorem shrink? {capacity : Nat} (positive : 0 < capacity) {fuel : Nat} (holds : s.Holds cells)
    (enough : cells.length ≤ fuel) : s.shrink? capacity fuel = some (s.shrink capacity fuel) := by
  induction fuel generalizing s cells with
  | zero =>
    cases List.length_eq_zero_iff.mp (Nat.le_zero.mp enough)
    exact if_pos (holds.index_length ▸ positive)
  | succ fuel ih =>
    rw [Slab.shrink?, Slab.shrink]
    by_cases room : s.index.length < capacity
    · rw [if_pos room, if_pos room]
    · rw [if_neg room, if_neg room]
      rcases cells.eq_nil_or_concat' with rfl | ⟨init, ⟨i, e⟩, rfl⟩
      · exact absurd (holds.index_length ▸ positive) room
      · have last : s.tail = some i := by simp [holds.linked.tail]
        have shorter : (s.removeSlot i).1.Holds (init ++ []) := holds.removeSlot.1
        rw [List.append_nil] at shorter
        rw [List.length_append, List.length_singleton] at enough
        rw [last]
        dsimp only
        rw [holds.removeSlot?, Option.bind_eq_bind, Option.bind_some, ih shorter (by omega)]
        rfl

end

end Holds

end Slab

/-! ### Caches -/

namespace Refines

variable [DecidableEq κ] {capacity : Nat} {ttl : Option Nat} {c : Cache κ α} {r : Recency κ α}

theorem get? (refines : Refines capacity ttl c r) (now : Nat) (key : κ) : c.get? now key = some (c.get now key) := by
  unfold Cache.get? Cache.get
  cases found : c.slab.find? key with
  | none => rfl
  | some i =>
    obtain ⟨before, e, after, holds, -⟩ := refines.find?_some found
    obtain ⟨slot, there, -⟩ := Option.map_eq_some_iff.mp (holds.entry_of_mem (List.mem_append_right _ List.mem_cons_self))
    obtain ⟨moved, there', -⟩ := Option.map_eq_some_iff.mp (holds.moveToFront.entry_of_mem List.mem_cons_self)
    have live : c.isLive now i = !c.isExpired now slot := by rw [Cache.isLive, there]; rfl
    simp only [live, there, there', holds.removeSlot?, holds.moveToFront?, Option.bind_eq_bind, Option.bind_some]
    cases c.isExpired now slot with
    | true => rfl
    | false => rfl

theorem has? (refines : Refines capacity ttl c r) (now : Nat) (key : κ) : c.has? now key = some (c.has now key) := by
  unfold Cache.has? Cache.has
  cases found : c.slab.find? key with
  | none => rfl
  | some i =>
    obtain ⟨before, e, after, holds, -⟩ := refines.find?_some found
    obtain ⟨slot, there, -⟩ := Option.map_eq_some_iff.mp (holds.entry_of_mem (List.mem_append_right _ List.mem_cons_self))
    have live : c.isLive now i = !c.isExpired now slot := by rw [Cache.isLive, there]; rfl
    simp only [live, there, holds.removeSlot?, Option.bind_eq_bind, Option.bind_some]
    cases c.isExpired now slot with
    | true => rfl
    | false => rfl

theorem delete? (refines : Refines capacity ttl c r) (key : κ) : c.delete? key = some (c.delete key) := by
  unfold Cache.delete? Cache.delete
  cases found : c.slab.find? key with
  | none => rfl
  | some i =>
    obtain ⟨before, e, after, holds, -⟩ := refines.find?_some found
    have removed : (c.slab.removeSlot i).2 = true := holds.removeSlot.2
    dsimp only
    rw [holds.removeSlot?, removed]
    rfl

theorem set? (refines : Refines capacity ttl c r) (now : Nat) (key : κ) (value : α) :
    c.set? now key value = some (c.set now key value) := by
  unfold Cache.set? Cache.set
  cases found : c.slab.find? key with
  | none =>
    obtain ⟨cells, holds, entries⟩ := refines.holds
    have positive : 0 < c.capacity := refines.capacity ▸ refines.positive
    have enough : cells.length ≤ c.slab.index.length := Nat.le_of_eq holds.index_length.symm
    have kept := (holds.shrink positive enough).1
    dsimp only
    rw [holds.shrink? positive enough, Option.bind_eq_bind, Option.bind_some, kept.insertFront?]
    rfl
  | some i =>
    obtain ⟨before, e, after, holds, -⟩ := refines.find?_some found
    have occupied := holds.entry_of_mem (List.mem_append_right _ List.mem_cons_self)
    dsimp only
    rw [Slab.modifySlot?_eq (occupied ▸ rfl), Option.bind_eq_bind, Option.bind_some, (holds.store value now).moveToFront?]
    rfl

omit [DecidableEq κ] in
theorem keys? (refines : Refines capacity ttl c r) : c.keys? = some c.keys := by
  obtain ⟨cells, holds, -⟩ := refines.holds
  rw [Cache.keys?, holds.entries?]
  rfl

/-- No operation names a slot that is missing. -/
theorem step?_eq (refines : Refines capacity ttl c r) (now : Nat) (operation : Operation κ α) :
    c.step? now operation = some (c.step now operation) := by
  cases operation with
  | get key => rw [step?, refines.get?]; rfl
  | set key value => rw [step?, refines.set?]; rfl
  | has key => rw [step?, refines.has?]; rfl
  | delete key => rw [step?, refines.delete?]; rfl
  | clear => rfl

theorem trace?_eq (refines : Refines capacity ttl c r) (history : List (Nat × Operation κ α)) :
    c.trace? history = some (c.trace history) := by
  induction history generalizing c r with
  | nil => rfl
  | cons entry history ih =>
    obtain ⟨now, operation⟩ := entry
    have after := (refines.step now operation).1
    rw [Cache.trace?, refines.step?_eq, Option.bind_eq_bind, Option.bind_some]
    dsimp only
    rw [after.keys?, Option.bind_eq_bind, Option.bind_some, ih after]
    rfl

end Refines

end MockApi.Cache
