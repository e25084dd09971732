import MockApi.Proofs.Json.Shape
import MockApi.Proofs.Json.Scanning

/-!
# Printed values are read back

What is read from the text of a value is the value, with its numbers as they are read from their texts
(`readRaw_pretty`). Whole numbers of 64 bits are the same again (`reread_ofNat`).
-/

namespace MockApi.Json

/-! ### Assembling -/

namespace Assembly

variable {stack : List OpenContainer}

/-- A value may begin here. -/
def Awaits (expected : Expected) : Prop := expected = .value ∨ expected = .valueOrClose

/-- What may follow elements or members: the end of the container, and a value or a name if there are none yet. -/
def behind (opened : Expected) (first : Bool) : Expected := if first then opened else .commaOrClose

theorem step_closeArray (elements : List Json) (first : Bool) (result : Json) :
    step ⟨.array elements :: stack, behind .valueOrClose first, result⟩ .closeArray =
      some (supply stack (.array elements.reverse)) := by
  cases first <;> rfl

theorem step_closeObject (members : List (String × Json)) (name : String) (first : Bool) (result : Json) :
    step ⟨.object members name :: stack, behind .nameOrClose first, result⟩ .closeObject =
      some (supply stack (.object members.reverse)) := by
  cases first <;> rfl

theorem foldlM_separator_array (stack : List OpenContainer) (elements : List Json) (first : Bool) :
    ∃ expected, Awaits expected ∧ (separator first).foldlM step ⟨.array elements :: stack, behind .valueOrClose first, .null⟩ =
      some ⟨.array elements :: stack, expected, .null⟩ := by
  cases first with
  | true => exact ⟨.valueOrClose, .inr rfl, rfl⟩
  | false => exact ⟨.value, .inl rfl, rfl⟩

theorem foldlM_separator_object (members : List (String × Json)) (first : Bool) (name : String) (rest : List Token) :
    (separator first ++ .text name :: .colon :: rest).foldlM step
        ⟨.object members "" :: stack, behind .nameOrClose first, .null⟩ =
      rest.foldlM step ⟨.object members name :: stack, .value, .null⟩ := by
  cases first <;> rfl

theorem step_openArray {expected : Expected} (awaits : Awaits expected) (room : stack.length < nestingLimit) (result : Json) :
    step ⟨stack, expected, result⟩ .openArray = some ⟨.array [] :: stack, behind .valueOrClose true, .null⟩ := by
  rcases awaits with rfl | rfl <;> exact if_pos room

theorem step_openObject {expected : Expected} (awaits : Awaits expected) (room : stack.length < nestingLimit)
    (result : Json) :
    step ⟨stack, expected, result⟩ .openObject = some ⟨.object [] "" :: stack, behind .nameOrClose true, .null⟩ := by
  rcases awaits with rfl | rfl <;> exact if_pos room

mutual

/-- The tokens of a value supply it to the container that is open. -/
theorem foldlM_tokensOf (stack : List OpenContainer) {expected : Expected} (awaits : Awaits expected) (result : Json) :
    (value : Json) → stack.length + value.nesting ≤ nestingLimit →
      (tokensOf value).foldlM step ⟨stack, expected, result⟩ = some (supply stack value)
  | .null, _ | .bool _, _ | .number _, _ | .string _, _ => by
    unfold tokensOf
    rcases awaits with rfl | rfl <;> rfl
  | .array elements, fits => by
    rw [nesting] at fits
    have inner := foldlM_elementTokens stack true [] elements (by omega)
    rw [List.append_nil] at inner
    rw [tokensOf, List.foldlM_cons, step_openArray awaits (by omega), Option.bind_eq_bind, Option.bind_some,
      List.foldlM_append, inner, Option.bind_eq_bind, Option.bind_some, List.foldlM_cons, step_closeArray,
      List.reverse_reverse]
    rfl
  | .object members, fits => by
    rw [nesting] at fits
    have inner := foldlM_memberTokens stack true [] members (by omega)
    rw [List.append_nil] at inner
    rw [tokensOf, List.foldlM_cons, step_openObject awaits (by omega), Option.bind_eq_bind, Option.bind_some,
      List.foldlM_append, inner, Option.bind_eq_bind, Option.bind_some, List.foldlM_cons, step_closeObject,
      List.reverse_reverse]
    rfl

theorem foldlM_elementTokens (stack : List OpenContainer) (first : Bool) (before : List Json) :
    (elements : List Json) → stack.length + 1 + nestingElements elements ≤ nestingLimit →
      (elementTokens first elements).foldlM step ⟨.array before :: stack, behind .valueOrClose first, .null⟩ =
        some ⟨.array (elements.reverse ++ before) :: stack, behind .valueOrClose (first && elements.isEmpty), .null⟩
  | [], _ => by cases first <;> rfl
  | x :: more, fits => by
    rw [nestingElements] at fits
    obtain ⟨expected, awaits, separated⟩ := foldlM_separator_array stack before first
    have supplied := foldlM_tokensOf (.array before :: stack) awaits .null x (by rw [List.length_cons]; omega)
    have others := foldlM_elementTokens stack false (x :: before) more (by omega)
    rw [elementTokens, List.foldlM_append, List.foldlM_append, separated, Option.bind_eq_bind, Option.bind_some, supplied,
      Option.bind_some, List.reverse_cons, List.append_assoc]
    cases first <;> exact others

theorem foldlM_memberTokens (stack : List OpenContainer) (first : Bool) (before : List (String × Json)) :
    (members : List (String × Json)) → stack.length + 1 + nestingMembers members ≤ nestingLimit →
      (memberTokens first members).foldlM step ⟨.object before "" :: stack, behind .nameOrClose first, .null⟩ =
        some ⟨.object (members.reverse ++ before) "" :: stack, behind .nameOrClose (first && members.isEmpty), .null⟩
  | [], _ => by cases first <;> rfl
  | (name, x) :: more, fits => by
    rw [nestingMembers] at fits
    have supplied := foldlM_tokensOf (.object before name :: stack) (.inl rfl) .null x (by rw [List.length_cons]; omega)
    have others := foldlM_memberTokens stack false ((name, x) :: before) more (by omega)
    rw [memberTokens, List.append_assoc, List.cons_append, List.cons_append, foldlM_separator_object, List.foldlM_append,
      supplied, Option.bind_eq_bind, Option.bind_some, List.reverse_cons, List.append_assoc]
    cases first <;> exact others

end

end Assembly

theorem assemble_tokensOf {value : Json} (shallow : value.nesting ≤ nestingLimit) : assemble (tokensOf value) = some value := by
  have supplied := Assembly.foldlM_tokensOf [] (.inl rfl) .null value (by rwa [List.length_nil, Nat.zero_add])
  rw [assemble, supplied]
  rfl

mutual

theorem nesting_reread : (value : Json) → ∀ v ∈ reread value, v.nesting = value.nesting
  | .null, _, rfl | .bool _, _, rfl | .string _, _, rfl => rfl
  | .number n, v, made => by
    rw [reread] at made
    obtain ⟨m, -, rfl⟩ := Option.map_eq_some_iff.mp made
    rw [nesting.eq_def, nesting.eq_def]
  | .array elements, v, made => by
    rw [reread] at made
    obtain ⟨es, inner, rfl⟩ := Option.map_eq_some_iff.mp made
    rw [nesting, nesting, nesting_rereadElements elements es inner]
  | .object members, v, made => by
    rw [reread] at made
    obtain ⟨ms, inner, rfl⟩ := Option.map_eq_some_iff.mp made
    rw [nesting, nesting, nesting_rereadMembers members ms inner]

theorem nesting_rereadElements : (elements : List Json) → ∀ es ∈ rereadElements elements,
    nestingElements es = nestingElements elements
  | [], _, rfl => rfl
  | x :: more, _, made => by
    rw [rereadElements] at made
    obtain ⟨v, first, made⟩ := Option.bind_eq_some_iff.mp made
    obtain ⟨es, others, rfl⟩ := Option.map_eq_some_iff.mp made
    rw [nestingElements, nestingElements, nesting_reread x v first, nesting_rereadElements more es others]

theorem nesting_rereadMembers : (members : List (String × Json)) → ∀ ms ∈ rereadMembers members,
    nestingMembers ms = nestingMembers members
  | [], _, rfl => rfl
  | (name, x) :: more, _, made => by
    rw [rereadMembers] at made
    obtain ⟨v, first, made⟩ := Option.bind_eq_some_iff.mp made
    obtain ⟨ms, others, rfl⟩ := Option.map_eq_some_iff.mp made
    rw [nestingMembers, nestingMembers, nesting_reread x v first, nesting_rereadMembers more ms others]

end

/-- A value that is not too deep is read back from its text, with its numbers read again. -/
theorem readRaw_pretty {value : Json} (shallow : value.nesting ≤ nestingLimit) {blanks : String}
    (blank : ∀ c ∈ blanks.toList, isBlank c) : readRaw (pretty value ++ blanks) = reread value := by
  rw [readRaw, tokens_pretty value blank]
  cases made : reread value with
  | none => rfl
  | some v =>
    exact assemble_tokensOf ((nesting_reread value v made).symm ▸ shallow)

/-! ### Whole numbers -/

theorem le_ofDigitChars (digits : List Char) (n : Nat) : n ≤ Nat.ofDigitChars 10 digits n := by
  induction digits generalizing n with
  | nil => exact Nat.le_refl n
  | cons c digits ih =>
    have further := ih (10 * n + (c.toNat - '0'.toNat))
    rw [Nat.ofDigitChars_cons]
    omega

theorem readWholeDigits_of_lt {digits : List Char} {n : Nat} (small : Nat.ofDigitChars 10 digits n < 2 ^ 64) :
    readWholeDigits digits n = (Nat.ofDigitChars 10 digits n, 0) := by
  induction digits generalizing n with
  | nil => rfl
  | cons c digits ih =>
    rw [Nat.ofDigitChars_cons] at small ⊢
    have value : n * 10 + digitValue c = 10 * n + (c.toNat - '0'.toNat) := by
      rw [Nat.mul_comm]
      rfl
    have further := le_ofDigitChars digits (10 * n + (c.toNat - '0'.toNat))
    rw [readWholeDigits, value, if_pos (by omega)]
    exact ih small

/-- Only nought begins with a nought. -/
theorem eq_nil_of_nought {n : Nat} {rest : List Char} (nought : Nat.toDigits 10 n = '0' :: rest) : rest = [] := by
  by_contra inhabited
  have decimal : ∀ c ∈ rest, c.isDigit := fun c mem =>
    Nat.isDigit_of_mem_toDigits (by decide) (by decide) (nought ▸ List.mem_cons_of_mem _ mem)
  have value : Nat.ofDigitChars 10 rest 0 = n := by
    rw [← Nat.ofDigitChars_ten_toDigits (n := n), nought, Nat.ofDigitChars_cons]
    rfl
  -- The digits behind the nought would be those of the same number.
  obtain ⟨noughts, same⟩ := Text.exists_noughts inhabited decimal
  have lengths := congrArg List.length same
  rw [value, List.length_append, nought, List.length_cons] at lengths
  omega

theorem readNumber_toDigits {n : Nat} (small : n < 2 ^ 64) : readNumber (Nat.toDigits 10 n) = some (.whole n) := by
  obtain ⟨c, rest, text⟩ := List.exists_cons_of_ne_nil (Nat.toDigits_ne_nil (n := n) (b := 10))
  have decimal : ∀ c ∈ Nat.toDigits 10 n, isDigit c := fun c mem =>
    Nat.isDigit_of_mem_toDigits (by decide) (by decide) mem
  have unsigned : readNumber (Nat.toDigits 10 n) = readUnsigned false (Nat.toDigits 10 n) := by
    have first := decimal c (text ▸ List.mem_cons_self)
    unfold readNumber
    split
    · rename_i same
      cases (List.cons.inj (same.symm.trans text)).1
      cases first
    · rfl
  have whole : (Nat.toDigits 10 n).takeWhile isDigit = Nat.toDigits 10 n := List.takeWhile_eq_self_iff.mpr decimal
  have behind : (Nat.toDigits 10 n).dropWhile isDigit = [] := List.dropWhile_eq_nil_iff.mpr decimal
  have digits : readWholeDigits (Nat.toDigits 10 n) 0 = (n, 0) := by
    have value : Nat.ofDigitChars 10 (Nat.toDigits 10 n) 0 = n := Nat.ofDigitChars_ten_toDigits
    rw [readWholeDigits_of_lt (value.symm ▸ small), value]
  have proper : ((Nat.toDigits 10 n).isEmpty ||
      (decide (1 < (Nat.toDigits 10 n).length) && (Nat.toDigits 10 n).head? == some '0')) = false := by
    rw [text]
    by_cases nought : c = '0'
    · subst nought
      rw [eq_nil_of_nought text]
      rfl
    · simp [nought]
  rw [unsigned, readUnsigned, whole, behind, digits]
  dsimp only
  rw [proper]
  rfl

theorem reread_ofNat {n : Nat} (small : n < 2 ^ 64) : reread (.ofNat n) = some (.ofNat n) := by
  have text : (Number.whole n).text.toList = Nat.toDigits 10 n := Nat.toList_repr
  rw [ofNat, reread, text, readNumber_toDigits small]
  rfl

end MockApi.Json
