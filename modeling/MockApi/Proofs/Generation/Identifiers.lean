import MockApi.Generation.Format
import MockApi.Proofs.Generation.Draws
import MockApi.Validation.Format

/-!
# Random identifiers

A text that is drawn as an identifier is one by the check of formats (`uuidText_gives`): groups of
hexadecimal digits with hyphens between them.
-/

namespace MockApi.Generation

open Validation

variable {bytes : List Nat}

def groupText (bytes : List Nat) : List Char := (Text.joinWith "" (bytes.map hexByte)).toList

/-- A group has two hexadecimal digits for each byte. -/
theorem isHexDigit_groupText (small : ∀ b ∈ bytes, b < 256) :
    (groupText bytes).length = 2 * bytes.length ∧
      (groupText bytes).all Address.isHexDigit = true := by
  induction bytes with
  | nil => exact ⟨rfl, rfl⟩
  | cons b bytes ih =>
    obtain ⟨first, rest⟩ := List.forall_mem_cons.mp small
    obtain ⟨length, digits⟩ := ih rest
    have joined : groupText (b :: bytes) =
        Nat.digitChar (b / 16) :: Nat.digitChar (b % 16) :: groupText bytes := by
      cases bytes <;> simp [groupText, Text.joinWith, hexByte]
    have isDigit : ∀ d < 16, Address.isHexDigit (Nat.digitChar d) = true := by decide
    rw [joined, List.length_cons, List.length_cons, List.all_cons, List.all_cons, length, digits,
      isDigit (b / 16) (by omega), isDigit (b % 16) (by omega)]
    exact ⟨rfl, rfl⟩

theorem isHexGroups_append {size next : Nat} {sizes : List Nat} {group rest : List Char}
    (length : group.length = size) (digits : group.all Address.isHexDigit = true) :
    isHexGroups (size :: next :: sizes) (group ++ '-' :: rest) = isHexGroups (next :: sizes) rest := by
  subst length
  simp only [isHexGroups, List.take_left, List.drop_left, digits, beq_self_eq_true, Bool.true_and]

theorem isUuid_uuidOfBytes (length : bytes.length = 16) (small : ∀ b ∈ bytes, b < 256) :
    isUuid (uuidOfBytes bytes) = true := by
  -- the bytes with the marks of their version
  let stamped := (bytes.set 6 (bytes.getD 6 0 % 16 + 64)).set 8 (bytes.getD 8 0 % 64 + 128)
  let group (first count : Nat) : List Char := groupText ((stamped.drop first).take count)
  have small' : ∀ b ∈ stamped, b < 256 := by
    intro b mem
    rcases List.mem_or_eq_of_mem_set mem with mem | rfl
    · rcases List.mem_or_eq_of_mem_set mem with mem | rfl
      · exact small b mem
      · omega
    · omega
  have digits (first count : Nat) (within : first + count ≤ 16) :
      (group first count).length = 2 * count ∧ (group first count).all Address.isHexDigit = true := by
    have part : ((stamped.drop first).take count).length = count := by
      simp only [stamped, List.length_take, List.length_drop, List.length_set, length]
      omega
    have taken : ∀ b ∈ (stamped.drop first).take count, b < 256 := fun b mem =>
      small' b (List.mem_of_mem_drop (List.mem_of_mem_take mem))
    have digits := isHexDigit_groupText taken
    rwa [part] at digits
  have written : (uuidOfBytes bytes).toList = group 0 4 ++ '-' :: (group 4 2 ++ '-' ::
      (group 6 2 ++ '-' :: (group 8 2 ++ '-' :: group 10 6))) := by
    simp [uuidOfBytes, Text.joinWith, stamped, group, groupText]
  have hyphenated : isHexGroups [8, 4, 4, 4, 12] (uuidOfBytes bytes).toList = true := by
    obtain ⟨length₀, digits₀⟩ := digits 0 4 (by decide)
    obtain ⟨length₁, digits₁⟩ := digits 4 2 (by decide)
    obtain ⟨length₂, digits₂⟩ := digits 6 2 (by decide)
    obtain ⟨length₃, digits₃⟩ := digits 8 2 (by decide)
    obtain ⟨length₄, digits₄⟩ := digits 10 6 (by decide)
    rw [written, isHexGroups_append length₀ digits₀, isHexGroups_append length₁ digits₁,
      isHexGroups_append length₂ digits₂, isHexGroups_append length₃ digits₃, isHexGroups, length₄, digits₄]
    rfl
  simp [isUuid, hyphenated]

theorem uuidText_gives {σ : Type} [Source σ] :
    (uuidText : Draw σ String).Gives (isUuid · = true) := by
  refine (Draw.times_gives (Draw.gives_any Draw.byte) 16).bind fun bytes ⟨length, _⟩ => Draw.gives_pure ?_
  refine isUuid_uuidOfBytes (by rw [List.length_map, length]) fun b mem => ?_
  obtain ⟨byte, -, rfl⟩ := List.mem_map.mp mem
  exact byte.toNat_lt

end MockApi.Generation
