/-!
# Order of use

What a bounded store means, as a plain list: entries in the order of their last use, the latest first,
with the counts of hits, misses and evictions.
-/

namespace MockApi.Cache

structure Entry (κ α : Type) where
  key : κ
  value : α
  storedAt : Nat

/-- Entries, the one used last first, and the counts. -/
structure Recency (κ α : Type) where
  entries : List (Entry κ α)
  hits : Nat
  misses : Nat
  evictions : Nat

namespace Recency

variable {κ α : Type} [DecidableEq κ]

def empty : Recency κ α := ⟨[], 0, 0, 0⟩

def isExpired (ttl : Option Nat) (now : Nat) (entry : Entry κ α) : Bool :=
  ttl.any (· ≤ now - entry.storedAt)

def find? (r : Recency κ α) (key : κ) : Option (Entry κ α) := r.entries.find? (·.key = key)

def others (r : Recency κ α) (key : κ) : List (Entry κ α) := r.entries.filter (·.key ≠ key)

/-- A live entry is read and moves to the front; an expired one is dropped. -/
def get (r : Recency κ α) (ttl : Option Nat) (now : Nat) (key : κ) : Recency κ α × Option α :=
  match r.find? key with
  | none => ({ r with misses := r.misses + 1 }, none)
  | some entry =>
    if isExpired ttl now entry then
      ({ r with entries := r.others key, misses := r.misses + 1 }, none)
    else ({ r with entries := entry :: r.others key, hits := r.hits + 1 }, some entry.value)

/-- A value goes to the front; a new key first makes room at the back. -/
def set (r : Recency κ α) (capacity now : Nat) (key : κ) (value : α) : Recency κ α :=
  match r.find? key with
  | some _ => { r with entries := ⟨key, value, now⟩ :: r.others key }
  | none =>
    { r with
      entries := ⟨key, value, now⟩ :: r.entries.take (capacity - 1)
      evictions := r.evictions + (r.entries.length - (capacity - 1)) }

/-- Whether a live entry is there; an expired one is dropped, and the order stays. -/
def has (r : Recency κ α) (ttl : Option Nat) (now : Nat) (key : κ) : Recency κ α × Bool :=
  match r.find? key with
  | none => (r, false)
  | some entry =>
    if isExpired ttl now entry then ({ r with entries := r.others key }, false) else (r, true)

def delete (r : Recency κ α) (key : κ) : Recency κ α × Bool :=
  ({ r with entries := r.others key }, (r.find? key).isSome)

def clear (r : Recency κ α) : Recency κ α := { r with entries := [] }

end Recency

end MockApi.Cache
