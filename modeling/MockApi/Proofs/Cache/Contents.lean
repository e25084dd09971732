import MockApi.Proofs.Cache.Refinement

/-!
# What a cache holds

A value leaves a cache as it was stored, under the key it was stored with. So if every value that is
stored suits its key, then every value that is found does, whatever was dropped in the meantime.
-/

namespace MockApi.Cache

variable {κ α : Type}

/-- Every value in the cache suits its key, and the cache holds at most `capacity` of them. -/
def Keeps (capacity : Nat) (suits : κ → α → Prop) (c : Cache κ α) : Prop :=
  ∃ ttl r, Refines capacity ttl c r ∧ ∀ e ∈ r.entries, suits e.key e.value

namespace Recency

variable [DecidableEq κ] {r : Recency κ α} {e : Entry κ α} {key : κ} {ttl : Option Nat} {now : Nat}

theorem mem_of_find? (found : r.find? key = some e) : e ∈ r.entries ∧ e.key = key := by
  rw [find?] at found
  exact ⟨List.mem_of_find?_eq_some found, by simpa using List.find?_some found⟩

theorem mem_of_mem_others (mem : e ∈ r.others key) : e ∈ r.entries := List.mem_of_mem_filter mem

theorem mem_of_mem_get (mem : e ∈ (r.get ttl now key).1.entries) : e ∈ r.entries := by
  unfold get at mem
  split at mem
  · exact mem
  · rename_i entry found
    split at mem
    · exact mem_of_mem_others mem
    · rcases List.mem_cons.mp mem with rfl | other
      · exact (mem_of_find? found).1
      · exact mem_of_mem_others other

theorem mem_of_get {value : α} (got : (r.get ttl now key).2 = some value) :
    ∃ e ∈ r.entries, e.key = key ∧ e.value = value := by
  unfold get at got
  split at got
  · cases got
  · rename_i entry found
    split at got
    · cases got
    · obtain ⟨mem, same⟩ := mem_of_find? found
      exact ⟨entry, mem, same, Option.some.inj got⟩

theorem mem_of_mem_set {capacity : Nat} {value : α}
    (mem : e ∈ (r.set capacity now key value).entries) : e = ⟨key, value, now⟩ ∨ e ∈ r.entries := by
  unfold set at mem
  split at mem
  · exact (List.mem_cons.mp mem).imp_right mem_of_mem_others
  · exact (List.mem_cons.mp mem).imp_right List.mem_of_mem_take

end Recency

namespace Keeps

variable {capacity now : Nat} {suits : κ → α → Prop} {c : Cache κ α} {key : κ} {value : α}

theorem mono {fits : κ → α → Prop} (keeps : c.Keeps capacity suits)
    (weaker : ∀ key value, suits key value → fits key value) : c.Keeps capacity fits := by
  obtain ⟨ttl, r, refines, all⟩ := keeps
  exact ⟨ttl, r, refines, fun e mem => weaker _ _ (all e mem)⟩

theorem empty (capacity : Nat) (ttl : Option Nat) (suits : κ → α → Prop) :
    (Cache.empty capacity ttl).Keeps (max capacity 1) suits :=
  ⟨ttl, .empty, refines_empty capacity ttl, nofun⟩

theorem size_le (keeps : c.Keeps capacity suits) : c.size ≤ capacity := by
  obtain ⟨ttl, r, refines, -⟩ := keeps
  rw [refines.size_eq]
  exact refines.room

theorem suits_of_mem_keys (keeps : c.Keeps capacity suits) (mem : key ∈ c.keys) :
    ∃ value, suits key value := by
  obtain ⟨ttl, r, refines, all⟩ := keeps
  rw [refines.keys_eq] at mem
  obtain ⟨e, stored, rfl⟩ := List.mem_map.mp mem
  exact ⟨e.value, all e stored⟩

variable [DecidableEq κ]

theorem get (keeps : c.Keeps capacity suits) (now : Nat) (key : κ) :
    (c.get now key).1.Keeps capacity suits := by
  obtain ⟨ttl, r, refines, all⟩ := keeps
  exact ⟨ttl, _, (refines.get now key).1, fun e mem => all e (Recency.mem_of_mem_get mem)⟩

theorem suits_of_get (keeps : c.Keeps capacity suits) (got : (c.get now key).2 = some value) :
    suits key value := by
  obtain ⟨ttl, r, refines, all⟩ := keeps
  rw [(refines.get now key).2] at got
  obtain ⟨e, stored, rfl, rfl⟩ := Recency.mem_of_get got
  exact all e stored

theorem set (keeps : c.Keeps capacity suits) (now : Nat) (fits : suits key value) :
    (c.set now key value).Keeps capacity suits := by
  obtain ⟨ttl, r, refines, all⟩ := keeps
  refine ⟨ttl, _, refines.set now key value, fun e mem => ?_⟩
  rcases Recency.mem_of_mem_set mem with rfl | stored
  · exact fits
  · exact all e stored

end Keeps

end MockApi.Cache
