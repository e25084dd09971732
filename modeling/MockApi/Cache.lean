import MockApi.Cache.Slab
import MockApi.Json

/-!
# A bounded cache

A cache holds at most `capacity` entries and drops the one used longest ago to make room for a new one.
With a time to live, an entry that was stored that long ago is dropped when it is looked up. Every
operation is told the present time.
-/

namespace MockApi

/-- Entries in linked slots, and the counts of what happened to them. -/
structure Cache (κ α : Type) where
  slab : Cache.Slab κ α
  capacity : Nat
  /-- How long an entry lives; without it, for ever. -/
  ttl : Option Nat
  hits : Nat
  misses : Nat
  evictions : Nat

namespace Cache

variable {κ α : Type} [DecidableEq κ]

def defaultCapacity : Nat := 128

def empty (capacity : Nat) (ttl : Option Nat) : Cache κ α :=
  ⟨Slab.empty, Nat.max capacity 1, ttl, 0, 0, 0⟩

def isExpired (c : Cache κ α) (now : Nat) (slot : Slot κ α) : Bool :=
  c.ttl.any (· ≤ now - slot.storedAt)

def isLive (c : Cache κ α) (now i : Nat) : Bool :=
  (c.slab.slot? i).any (!c.isExpired now ·)

def drop (c : Cache κ α) (i : Nat) : Cache κ α := { c with slab := (c.slab.removeSlot i).1 }

def get (c : Cache κ α) (now : Nat) (key : κ) : Cache κ α × Option α :=
  match c.slab.find? key with
  | none => ({ c with misses := c.misses + 1 }, none)
  | some i =>
    if c.isLive now i then
      let slab := c.slab.moveToFront i
      ({ c with slab, hits := c.hits + 1 }, (slab.slot? i).map (·.value))
    else ({ c.drop i with misses := c.misses + 1 }, none)

def set (c : Cache κ α) (now : Nat) (key : κ) (value : α) : Cache κ α :=
  match c.slab.find? key with
  | some i =>
    { c with slab :=
        (c.slab.modifySlot i fun slot => { slot with value, storedAt := now }).moveToFront i }
  | none =>
    let (slab, evicted) := c.slab.shrink c.capacity c.slab.index.length
    { c with slab := slab.insertFront key value now, evictions := c.evictions + evicted }

/-- Whether a key has a value. That does not count as a use. -/
def has (c : Cache κ α) (now : Nat) (key : κ) : Cache κ α × Bool :=
  match c.slab.find? key with
  | none => (c, false)
  | some i => if c.isLive now i then (c, true) else (c.drop i, false)

def delete (c : Cache κ α) (key : κ) : Cache κ α × Bool :=
  match c.slab.find? key with
  | none => (c, false)
  | some i =>
    let (slab, removed) := c.slab.removeSlot i
    ({ c with slab }, removed)

def clear (c : Cache κ α) : Cache κ α := { c with slab := Slab.empty }

def size (c : Cache κ α) : Nat := c.slab.index.length

def keys (c : Cache κ α) : List κ := c.slab.entries.map (·.key)

/-- The value under a key, or else the one that `build` gives, which is stored unless it failed. -/
def getOrBuild {ε : Type} (c : Cache κ α) (now : Nat) (key : κ) (build : Except ε α) :
    Cache κ α × Except ε α :=
  match c.get now key with
  | (c, some value) => (c, .ok value)
  | (c, none) => match build with
    | .ok value => (c.set now key value, .ok value)
    | .error e => (c, .error e)

structure Stats where
  entries : Nat
  capacity : Nat
  hits : Nat
  misses : Nat
  evictions : Nat
deriving DecidableEq

def stats (c : Cache κ α) : Stats := ⟨c.size, c.capacity, c.hits, c.misses, c.evictions⟩

def Stats.toJson (s : Stats) : Json :=
  .ofMembers [("entries", .ofNat s.entries), ("capacity", .ofNat s.capacity),
    ("hits", .ofNat s.hits), ("misses", .ofNat s.misses), ("evictions", .ofNat s.evictions)]

end Cache

end MockApi
