import Mathlib.Data.List.TakeWhile
import Mathlib.Data.Option.Basic
import MockApi.Text.Parts

/-!
# Splitting, trimming and numerals

Where a separator is met for the first time, what trimming takes away, and what is left when an ending is taken off. The
texts that `readNat?` takes for a number are its decimal digits, with noughts in front and a plus sign before them or
without (`readNat?_eq_some_iff`).
-/

namespace MockApi.Text

variable {separator : Char} {before s : List Char}

theorem splitOnce_append (absent : separator ∉ before) (behind : List Char) :
    splitOnce separator (before ++ separator :: behind) = some (before, behind) := by
  induction before with
  | nil => exact if_pos rfl
  | cons c rest ih =>
    obtain ⟨other, absent⟩ := not_or.mp (mt List.mem_cons.mpr absent)
    rw [List.cons_append, splitOnce, if_neg (Ne.symm other), ih absent]
    rfl

theorem splitOnce_of_not_mem (absent : separator ∉ s) : splitOnce separator s = none := by
  induction s with
  | nil => rfl
  | cons c rest ih =>
    obtain ⟨other, absent⟩ := not_or.mp (mt List.mem_cons.mpr absent)
    rw [splitOnce, if_neg (Ne.symm other), ih absent]
    rfl

theorem splitOnce_eq_some {behind : List Char} (split : splitOnce separator s = some (before, behind)) :
    s = before ++ separator :: behind := by
  induction s generalizing before with
  | nil => cases split
  | cons c rest ih =>
    rw [splitOnce] at split
    split at split
    · rename_i same
      cases split
      rw [same, List.nil_append]
    · obtain ⟨⟨front, behind⟩, found, same⟩ := Option.map_eq_some_iff.mp split
      cases same
      rw [ih found, List.cons_append]

theorem dropWhile_isBlank_of_solid (solid : ∀ c ∈ s, isBlank c = false) : s.dropWhile isBlank = s := by
  cases s with
  | nil => rfl
  | cons c rest => exact List.dropWhile_cons_of_neg (ne_true_of_eq_false (solid c List.mem_cons_self))

/-- Where nothing is blank, nothing is trimmed. -/
theorem trimChars_of_solid (solid : ∀ c ∈ s, isBlank c = false) : trimChars s = s := by
  have back : ∀ c ∈ s.reverse, isBlank c = false := fun c mem => solid c (List.mem_reverse.mp mem)
  rw [trimChars, dropWhile_isBlank_of_solid solid, dropWhile_isBlank_of_solid back, List.reverse_reverse]

theorem dropWhile_append_of_blank (blank : ∀ c ∈ before, isBlank c) (first : ∀ c ∈ s.head?, isBlank c = false) :
    (before ++ s).dropWhile isBlank = s := by
  induction before with
  | nil =>
    cases s with
    | nil => rfl
    | cons c rest => exact List.dropWhile_cons_of_neg (ne_true_of_eq_false (first c rfl))
  | cons c rest ih =>
    obtain ⟨blank, behind⟩ := List.forall_mem_cons.mp blank
    rw [List.cons_append, List.dropWhile_cons_of_pos blank]
    exact ih behind

/-- Only the blanks around a text are trimmed. -/
theorem trimChars_around {core behind : List Char} (blank : ∀ c ∈ before ++ behind, isBlank c)
    (first : ∀ c ∈ core.head?, isBlank c = false) (last : ∀ c ∈ core.getLast?, isBlank c = false) :
    trimChars (before ++ core ++ behind) = core := by
  obtain ⟨front, back⟩ := List.forall_mem_append.mp blank
  have mirrored : ∀ c ∈ behind.reverse, isBlank c := fun c mem => back c (List.mem_reverse.mp mem)
  cases core with
  | nil =>
    have gone : (before ++ ([] ++ behind)).dropWhile isBlank = [] := by
      rw [List.nil_append, ← List.append_nil (before ++ behind)]
      exact dropWhile_append_of_blank blank nofun
    rw [trimChars, List.append_assoc, gone]
    rfl
  | cons c rest =>
    have started : (before ++ (c :: rest ++ behind)).dropWhile isBlank = c :: rest ++ behind :=
      dropWhile_append_of_blank front first
    rw [trimChars, List.append_assoc, started, List.reverse_append,
      dropWhile_append_of_blank mirrored (by rwa [List.head?_reverse]), List.reverse_reverse]

theorem exists_blanks (s : List Char) :
    ∃ before behind, (∀ c ∈ before ++ behind, isBlank c) ∧ s = before ++ trimChars s ++ behind := by
  refine ⟨s.takeWhile isBlank, ((s.dropWhile isBlank).reverse.takeWhile isBlank).reverse, ?_, ?_⟩
  · refine List.forall_mem_append.mpr ⟨fun c mem => List.mem_takeWhile_imp mem, fun c mem => ?_⟩
    exact List.mem_takeWhile_imp (List.mem_reverse.mp mem)
  · rw [trimChars, List.append_assoc, ← List.reverse_append, List.takeWhile_append_dropWhile, List.reverse_reverse,
      List.takeWhile_append_dropWhile]

/-- Only blanks are trimmed. -/
theorem mem_trimChars {c : Char} (mem : c ∈ s) : c ∈ trimChars s ∨ isBlank c := by
  obtain ⟨before, behind, blank, same⟩ := exists_blanks s
  rw [same, List.append_assoc, List.mem_append, List.mem_append] at mem
  rcases mem with front | core | back
  · exact .inr (blank c (List.mem_append_left behind front))
  · exact .inl core
  · exact .inr (blank c (List.mem_append_right before back))

theorem dropStart_eq_some {start rest : List Char} : dropStart start s = some rest ↔ s = start ++ rest := by
  induction start generalizing s with
  | nil => exact Option.some_inj
  | cons a start ih =>
    cases s with
    | nil => exact iff_of_false nofun nofun
    | cons b s =>
      rw [dropStart, List.cons_append, List.cons.injEq]
      split
      · rename_i same
        rw [ih]
        exact (and_iff_right same.symm).symm
      · rename_i other
        exact iff_of_false nofun fun whole => other whole.1.symm

theorem dropFinish_eq_some {finish rest : List Char} : dropFinish finish s = some rest ↔ s = rest ++ finish := by
  rw [dropFinish, Option.map_eq_some_iff]
  constructor
  · rintro ⟨mirrored, dropped, rfl⟩
    rw [dropStart_eq_some] at dropped
    rw [← s.reverse_reverse, dropped, List.reverse_append, List.reverse_reverse]
  · rintro rfl
    exact ⟨rest.reverse, dropStart_eq_some.mpr List.reverse_append, List.reverse_reverse rest⟩

/-! ### Numerals -/

/-- The decimal digits of a number, with noughts in front and perhaps a plus sign before them. -/
def numeral (plus : Bool) (noughts n : Nat) : List Char :=
  (if plus then ['+'] else []) ++ (List.replicate noughts '0' ++ Nat.toDigits 10 n)

variable {digits : List Char} {plus : Bool} {noughts n limit : Nat}

/-! ### Digits -/

theorem foldl_digits (digits : List Char) (n : Nat) :
    digits.foldl (fun n c => n * 10 + (c.toNat - 48)) n = Nat.ofDigitChars 10 digits n := by
  rw [Nat.ofDigitChars_eq_foldl]
  simp only [Nat.mul_comm 10]
  rfl

theorem isDigit_iff {c : Char} : c.isDigit ↔ 48 ≤ c.toNat ∧ c.toNat ≤ 57 := by
  simp only [Char.isDigit, Bool.and_eq_true, decide_eq_true_eq]
  exact Iff.rfl

theorem digitChar_sub {c : Char} (digit : c.isDigit) : (c.toNat - 48).digitChar = c := by
  obtain ⟨low, high⟩ := isDigit_iff.mp digit
  apply Char.toNat_inj.mp
  rw [Nat.toNat_digitChar_of_lt_ten (by omega)]
  omega

/-- Digits behind a number that is not nought are those of the number that they make together. -/
theorem toDigits_append (decimal : ∀ c ∈ digits, c.isDigit) (positive : 0 < n) :
    Nat.toDigits 10 n ++ digits = Nat.toDigits 10 (Nat.ofDigitChars 10 digits n) := by
  induction digits generalizing n with
  | nil => exact List.append_nil _
  | cons c rest ih =>
    obtain ⟨digit, decimal⟩ := List.forall_mem_cons.mp decimal
    obtain ⟨low, high⟩ := isDigit_iff.mp digit
    have small : c.toNat - 48 < 10 := by omega
    have longer : Nat.toDigits 10 n ++ [c] = Nat.toDigits 10 (10 * n + (c.toNat - 48)) := by
      rw [← Nat.toDigits_append_toDigits (by decide) positive small, Nat.toDigits_of_lt_base small, digitChar_sub digit]
    rw [Nat.ofDigitChars_cons, ← List.singleton_append, ← List.append_assoc, longer]
    exact ih decimal (by omega)

/-- Digits are those of a number with noughts in front. -/
theorem exists_noughts (inhabited : digits ≠ []) (decimal : ∀ c ∈ digits, c.isDigit) :
    ∃ noughts, digits = List.replicate noughts '0' ++ Nat.toDigits 10 (Nat.ofDigitChars 10 digits 0) := by
  induction digits with
  | nil => exact absurd rfl inhabited
  | cons c rest ih =>
    have behind : ∀ c ∈ rest, c.isDigit := fun c mem => decimal c (List.mem_cons_of_mem _ mem)
    have digit := decimal c List.mem_cons_self
    obtain ⟨low, high⟩ := isDigit_iff.mp digit
    rw [Nat.ofDigitChars_cons]
    by_cases nought : c = '0'
    · subst nought
      by_cases last : rest = []
      · exact ⟨0, by rw [last]; rfl⟩
      · obtain ⟨noughts, same⟩ := ih last behind
        exact ⟨noughts + 1, congrArg ('0' :: ·) same⟩
    · have positive : 0 < c.toNat - 48 := by
        have other : c.toNat ≠ 48 := fun same => nought (Char.toNat_inj.mp same)
        omega
      refine ⟨0, ?_⟩
      have small : c.toNat - 48 < 10 := by omega
      have whole := toDigits_append behind positive
      rw [Nat.toDigits_of_lt_base small, digitChar_sub digit] at whole
      rw [Nat.mul_zero, Nat.zero_add]
      exact whole

theorem ofDigitChars_noughts (noughts n : Nat) :
    Nat.ofDigitChars 10 (List.replicate noughts '0' ++ Nat.toDigits 10 n) 0 = n := by
  rw [Nat.ofDigitChars_append, Nat.ofDigitChars_replicate_zero, Nat.mul_zero]
  exact Nat.ofDigitChars_ten_toDigits

theorem isDigit_of_mem_noughts {c : Char} (mem : c ∈ List.replicate noughts '0' ++ Nat.toDigits 10 n) : c.isDigit := by
  rcases List.mem_append.mp mem with front | back
  · rw [List.eq_of_mem_replicate front]
    rfl
  · exact Nat.isDigit_of_mem_toDigits (by decide) (by decide) back

/-! ### Reading -/

theorem isBlank_of_isDigit {c : Char} (digit : c.isDigit) : isBlank c = false := by
  obtain ⟨low, high⟩ := isDigit_iff.mp digit
  have early : ¬ c.toNat < 9 := by omega
  have late : ¬ c.toNat ≤ 13 := by omega
  have behind : ¬ c.toNat < 32 := by omega
  have other : ¬ c.toNat ≤ 32 := by omega
  have before : c.toNat < 133 := by omega
  simp [isBlank, blankRuns, Runs.has, early, late, behind, other, before]

/-- What a text is read as behind its sign. -/
theorem readDigits_eq_some_iff : (if digits.isEmpty || !digits.all Char.isDigit then none
      else if digits.foldl (fun n c => n * 10 + (c.toNat - 48)) 0 < limit
        then some (digits.foldl (fun n c => n * 10 + (c.toNat - 48)) 0) else none) = some n ↔
    n < limit ∧ ∃ noughts, digits = List.replicate noughts '0' ++ Nat.toDigits 10 n := by
  rw [foldl_digits]
  constructor
  · intro read
    split at read
    · cases read
    · rename_i proper
      obtain ⟨inhabited, decimal⟩ := not_or.mp (mt (Bool.or_eq_true _ _).mpr proper)
      split at read
      · rename_i small
        cases read
        refine ⟨small, exists_noughts (fun empty => inhabited (List.isEmpty_iff.mpr empty)) ?_⟩
        simpa using decimal
      · cases read
  · rintro ⟨small, noughts, rfl⟩
    have decimal : (List.replicate noughts '0' ++ Nat.toDigits 10 n).all Char.isDigit = true :=
      List.all_eq_true.mpr fun c mem => isDigit_of_mem_noughts mem
    have inhabited : (List.replicate noughts '0' ++ Nat.toDigits 10 n).isEmpty = false := by
      simp [Nat.toDigits_ne_nil]
    rw [decimal, inhabited, ofDigitChars_noughts]
    exact if_pos small

theorem readNat?_eq_some_iff {s : List Char} :
    readNat? limit s = some n ↔ n < limit ∧ ∃ plus noughts, s = numeral plus noughts n := by
  have signless (noughts : Nat) (rest : List Char) :
      List.replicate noughts '0' ++ Nat.toDigits 10 n ≠ '+' :: rest := by
    intro same
    have digit : '+'.isDigit := isDigit_of_mem_noughts (n := n) (same ▸ List.mem_cons_self)
    cases digit
  unfold readNat?
  split
  · rename_i rest
    rw [readDigits_eq_some_iff]
    refine and_congr_right fun _ => ⟨?_, ?_⟩
    · rintro ⟨noughts, rfl⟩
      exact ⟨true, noughts, rfl⟩
    · rintro ⟨plus, noughts, same⟩
      cases plus with
      | true => exact ⟨noughts, (List.cons.inj same).2⟩
      | false => exact absurd same.symm (signless noughts rest)
  · rename_i unsigned
    rw [readDigits_eq_some_iff]
    refine and_congr_right fun _ => ⟨?_, ?_⟩
    · rintro ⟨noughts, rfl⟩
      exact ⟨false, noughts, rfl⟩
    · rintro ⟨plus, noughts, same⟩
      cases plus with
      | true => exact absurd same (unsigned _)
      | false => exact ⟨noughts, same⟩

theorem readNat?_numeral : readNat? limit (numeral plus noughts n) = if n < limit then some n else none := by
  have reads {limit : Nat} (small : n < limit) : readNat? limit (numeral plus noughts n) = some n :=
    readNat?_eq_some_iff.mpr ⟨small, plus, noughts, rfl⟩
  split
  · rename_i small
    exact reads small
  · rename_i large
    by_contra found
    obtain ⟨m, read⟩ := Option.ne_none_iff_exists'.mp found
    -- Under a greater limit the same text would be read as two numbers.
    obtain ⟨small, same⟩ := readNat?_eq_some_iff.mp read
    have other : readNat? (n + 1) (numeral plus noughts n) = some m :=
      readNat?_eq_some_iff.mpr ⟨by omega, same⟩
    rw [reads (Nat.lt_succ_self n)] at other
    cases other
    exact large small

/-! ### The characters of a numeral -/

theorem of_mem_numeral {c : Char} (mem : c ∈ numeral plus noughts n) : c.isDigit ∨ c = '+' := by
  rcases List.mem_append.mp mem with sign | digits
  · cases plus with
    | true => exact .inr (List.mem_singleton.mp sign)
    | false => cases sign
  · exact .inl (isDigit_of_mem_noughts digits)

theorem isBlank_of_mem_numeral {c : Char} (mem : c ∈ numeral plus noughts n) : isBlank c = false := by
  rcases of_mem_numeral mem with digit | rfl
  · exact isBlank_of_isDigit digit
  · decide

theorem numeral_ne_nil : numeral plus noughts n ≠ [] := by
  simp [numeral, Nat.toDigits_ne_nil]

/-- A numeral ends in a digit. -/
theorem isDigit_of_mem_getLast?_numeral {c : Char} (last : c ∈ (numeral plus noughts n).getLast?) : c.isDigit := by
  have inner : (Nat.toDigits 10 n).getLast? = some c := by
    have final := List.getLast?_eq_some_getLast (Nat.toDigits_ne_nil (n := n) (b := 10))
    rw [numeral, List.getLast?_append, List.getLast?_append, final] at last
    exact final.trans last
  exact Nat.isDigit_of_mem_toDigits (by decide) (by decide) (List.mem_of_getLast? inner)

end MockApi.Text
