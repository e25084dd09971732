import MockApi.Power
import MockApi.Text.Parts
import Mathlib.Data.Bool.AllAny
import Mathlib.Data.List.Forall2
import Mathlib.Tactic.MkIffOfInductiveProp

/-!
# Lower-case and upper-case forms

For ASCII the forms and classes of characters are the usual ones. Beyond it, a lower-case form has itself for
its lower-case form (`lowerChar_of_mem`), so a text of such forms is left as it is by `lower`
(`lower_eq_self`), and no form is an ASCII character other than a small letter, unless it is the character
itself.
-/

namespace MockApi.Text

variable {c d : Char}

/-! ### Code points that are shifted -/

namespace Shift

/-- The least code point that a shift maps to. -/
def lowest (s : Shift) : Nat := (s.first + s.shift).toNat

def highest (s : Shift) : Nat := (s.last + s.shift).toNat

/-- How many code points are covered. -/
def count (s : Shift) : Nat := (s.last - s.first) / s.step + 1

/-- A set of code points a step apart, as the bits of a number. -/
def stepped (step : Nat) : Nat → Nat → Nat
  | _, 0 => 0
  | start, count + 1 => 2 ^ start ||| stepped step (start + step) count

/-- The sets that begin where each shift begins, or where it maps its first code point to. -/
def union (start : Shift → Nat) (shifts : List Shift) : Nat :=
  shifts.foldr (fun s rest => stepped s.step (start s) s.count ||| rest) 0

/-- A shift maps to small letters of ASCII or beyond ASCII, and to no code point that is not a character.
From beyond ASCII it maps to nothing of ASCII but k. -/
@[mk_iff]
structure ToForms (s : Shift) : Prop where
  upward : 0 ≤ s.first + s.shift
  small : 128 ≤ s.lowest ∨ 97 ≤ s.lowest ∧ s.highest ≤ 122
  undotted : s.highest < 0x130 ∨ 0x130 < s.lowest
  valid : s.highest < 0xD800 ∨ 0xDFFF < s.lowest ∧ s.highest < 0x110000
  far : s.last < 128 ∨ 128 ≤ s.lowest ∨ s.lowest = 107 ∧ s.highest = 107

instance (s : Shift) : Decidable s.ToForms := decidable_of_iff _ (toForms_iff s).symm

variable {s t : Shift} {n : Nat}

theorem covers_iff : s.covers n = true ↔ s.first ≤ n ∧ n ≤ s.last ∧ (n - s.first) % s.step = 0 := by
  simp [covers, and_assoc]

/-- Where a covered code point is, and where it is mapped to. -/
theorem exists_place (forms : s.ToForms) (covers : s.covers n = true) :
    ∃ i < s.count, n = s.first + i * s.step ∧ (n + s.shift).toNat = s.lowest + i * s.step ∧
      (n + s.shift).toNat ≤ s.highest := by
  obtain ⟨first, last, stepped⟩ := covers_iff.mp covers
  have upward := forms.upward
  have whole : (n - s.first) / s.step * s.step = n - s.first :=
    Nat.div_mul_cancel (Nat.dvd_of_mod_eq_zero stepped)
  refine ⟨(n - s.first) / s.step, ?_, ?_, ?_, ?_⟩
  · exact Nat.lt_succ_of_le (Nat.div_le_div_right (Nat.sub_le_sub_right last s.first))
  · omega
  · rw [whole, lowest]
    omega
  · rw [highest]
    omega

theorem testBit_stepped {step start count i : Nat} (inside : i < count) :
    (stepped step start count).testBit (start + i * step) = true := by
  induction count generalizing start i with
  | zero => exact absurd inside (Nat.not_lt_zero i)
  | succ count ih =>
    rw [stepped, Nat.testBit_or, Bool.or_eq_true]
    cases i with
    | zero =>
      rw [Nat.zero_mul, Nat.add_zero]
      exact .inl Nat.testBit_two_pow_self
    | succ i =>
      have next : start + (i + 1) * step = start + step + i * step := by
        rw [Nat.succ_mul]
        omega
      rw [next]
      exact .inr (ih (Nat.lt_of_succ_lt_succ inside))

theorem testBit_union (start : Shift → Nat) {shifts : List Shift} {i : Nat} (mem : s ∈ shifts)
    (inside : i < s.count) : (union start shifts).testBit (start s + i * s.step) = true := by
  induction shifts with
  | nil => cases mem
  | cons t rest ih =>
    rw [union, List.foldr_cons, Nat.testBit_or, Bool.or_eq_true]
    rcases List.mem_cons.mp mem with rfl | mem
    · exact .inl (testBit_stepped inside)
    · exact .inr (ih mem)

end Shift

theorem mapBy_eq_self {shifts : List Shift} {n : Nat} (free : ∀ s ∈ shifts, s.covers n = false) :
    mapBy shifts n = n := by
  induction shifts with
  | nil => rfl
  | cons s rest ih =>
    rw [mapBy, free s List.mem_cons_self]
    exact ih fun t mem => free t (List.mem_cons_of_mem _ mem)

theorem mapBy_cases (shifts : List Shift) (n : Nat) :
    mapBy shifts n = n ∨ ∃ s ∈ shifts, s.covers n = true ∧ mapBy shifts n = (n + s.shift).toNat := by
  induction shifts with
  | nil => exact .inl rfl
  | cons s rest ih =>
    rw [mapBy]
    cases covers : s.covers n with
    | true => exact .inr ⟨s, List.mem_cons_self, covers, if_pos rfl⟩
    | false =>
      rw [if_neg (by simp)]
      rcases ih with same | ⟨t, mem, found⟩
      · exact .inl same
      · exact .inr ⟨t, List.mem_cons_of_mem _ mem, found⟩

theorem toNat_ofNat {n : Nat} (valid : n.isValidChar) : (Char.ofNat n).toNat = n := by
  rw [Char.ofNat, dif_pos valid]
  rfl

theorem toForms_lowerShifts : ∀ s ∈ lowerShifts, s.ToForms := by
  decide +kernel

/-- No code point that is mapped to is mapped on. -/
theorem covers_lowerShifts_eq_false {s t : Shift} {n : Nat} (mem : s ∈ lowerShifts)
    (covers : s.covers n = true) (mem' : t ∈ lowerShifts) : t.covers (n + s.shift).toNat = false := by
  -- The table has too many pairs to compare each with each; as bits, all code points are compared at once.
  have disjoint : Shift.union Shift.lowest lowerShifts &&& Shift.union Shift.first lowerShifts = 0 := by
    decide +kernel
  have forms := toForms_lowerShifts
  obtain ⟨i, inside, -, mapped, -⟩ := Shift.exists_place (forms s mem) covers
  rw [Bool.eq_false_iff]
  intro again
  obtain ⟨j, inside', place, -⟩ := Shift.exists_place (forms t mem') again
  have image := Shift.testBit_union Shift.lowest mem inside
  have domain := Shift.testBit_union Shift.first mem' inside'
  rw [← mapped] at image
  rw [← place] at domain
  have both := congrArg (Nat.testBit · (n + s.shift).toNat) disjoint
  simp [Nat.testBit_and, image, domain] at both

/-! ### Lower-case forms -/

theorem lowerChar_ne_nil (c : Char) : lowerChar c ≠ [] := by
  unfold lowerChar
  split <;> nofun

/-- The forms of the dotted capital and of sigma. -/
theorem lowerChar_special : lowerChar 'i' = ['i'] ∧ lowerChar (Char.ofNat 0x307) = [Char.ofNat 0x307] ∧
    lowerChar (Char.ofNat 0x3A3) = [Char.ofNat 0x3C3] := by
  decide +kernel

theorem lowerChar_sigma (sigma : c.toNat = 0x3A3) : lowerChar c = [Char.ofNat 0x3C3] := by
  rw [← Char.ofNat_toNat c, sigma]
  exact lowerChar_special.2.2

/-- What a character becomes, if it does not stay what it is. -/
theorem lowerChar_cases (mem : d ∈ lowerChar c) :
    d = c ∨ lowerChar d = [d] ∧ (128 ≤ d.toNat ∨ 97 ≤ d.toNat ∧ d.toNat ≤ 122) := by
  unfold lowerChar at mem
  split at mem
  · refine .inr ?_
    simp only [List.mem_cons, List.not_mem_nil, or_false] at mem
    rcases mem with rfl | rfl
    · exact ⟨lowerChar_special.1, by decide⟩
    · exact ⟨lowerChar_special.2.1, by decide⟩
  · rw [List.mem_singleton] at mem
    rcases mapBy_cases lowerShifts c.toNat with same | ⟨s, listed, covers, mapped⟩
    · rw [same, Char.ofNat_toNat] at mem
      exact .inl mem
    · have forms := toForms_lowerShifts s listed
      obtain ⟨i, -, -, place, bounded⟩ := Shift.exists_place forms covers
      have valid : (c.toNat + s.shift).toNat.isValidChar := by
        have := forms.valid
        unfold Nat.isValidChar
        omega
      have code : d.toNat = (c.toNat + s.shift).toNat := by
        rw [mem, mapped, toNat_ofNat valid]
      have fixed : mapBy lowerShifts d.toNat = d.toNat := by
        rw [code]
        exact mapBy_eq_self fun t mem' => covers_lowerShifts_eq_false listed covers mem'
      have undotted : d.toNat ≠ 0x130 := by
        have := forms.undotted
        omega
      refine .inr ⟨?_, ?_⟩
      · rw [lowerChar, if_neg undotted, fixed, Char.ofNat_toNat]
      · have := forms.small
        omega

/-- A lower-case form is its own. -/
theorem lowerChar_of_mem (mem : d ∈ lowerChar c) : lowerChar d = [d] := by
  rcases lowerChar_cases mem with rfl | ⟨fixed, -⟩
  · by_cases dotted : d.toNat = 0x130
    · rw [lowerChar, if_pos dotted] at mem
      simp only [List.mem_cons, List.not_mem_nil, or_false] at mem
      rcases mem with rfl | rfl <;> exact absurd dotted (by decide)
    · rw [lowerChar, if_neg dotted, List.mem_singleton] at mem
      rw [lowerChar, if_neg dotted, ← mem]
  · exact fixed

/-! ### Texts in lower case -/

/-- Each character is its own lower-case form. -/
def Small (s : List Char) : Prop := ∀ c ∈ s, lowerChar c = [c]

/-- Only the characters of the text are looked at, of all that there are. -/
instance (s : List Char) : Decidable (Small s) :=
  decidable_of_iff (s.all fun c => lowerChar c = [c]) List.all_iff_forall_prop

theorem Small.not_sigma {s : List Char} (small : Small s) (mem : c ∈ s) : c.toNat ≠ 0x3A3 := by
  intro sigma
  have same := List.singleton_inj.mp ((small c mem).symm.trans (lowerChar_sigma sigma))
  rw [same] at sigma
  exact absurd sigma (by decide)

/-- What is in lower case at the start of a text stays. -/
theorem lowerFrom_append {s : List Char} (small : Small s) (before rest : List Char) :
    lowerFrom before (s ++ rest) = s ++ lowerFrom (s.reverse ++ before) rest := by
  induction s generalizing before with
  | nil => rfl
  | cons c s ih =>
    have others : Small s := fun d mem => small d (List.mem_cons_of_mem c mem)
    rw [List.cons_append, lowerFrom, if_neg (small.not_sigma List.mem_cons_self),
      small c List.mem_cons_self, ih others, List.reverse_cons, List.append_assoc]
    rfl

theorem lower_eq_self {s : String} (small : Small s.toList) : lower s = s := by
  have whole := lowerFrom_append small [] []
  rw [List.append_nil, lowerFrom, List.append_nil] at whole
  rw [lower, whole, String.ofList_toList]

/-! ### Forms of characters in a text -/

/-- What a character becomes in a text: its own form, or the final sigma. -/
def IsForm (c : Char) (form : List Char) : Prop :=
  form = lowerChar c ∨ c.toNat = 0x3A3 ∧ form = [Char.ofNat 0x3C2]

theorem exists_forms (before s : List Char) :
    ∃ forms, List.Forall₂ IsForm s forms ∧ lowerFrom before s = forms.flatten := by
  induction s generalizing before with
  | nil => exact ⟨[], .nil, rfl⟩
  | cons c s ih =>
    obtain ⟨forms, related, joined⟩ := ih (c :: before)
    rw [lowerFrom, joined]
    split
    · rename_i here
      split
      · exact ⟨_, .cons (.inr ⟨here, rfl⟩) related, rfl⟩
      · exact ⟨_, .cons (.inl (lowerChar_sigma here).symm) related, rfl⟩
    · exact ⟨_, .cons (.inl rfl) related, rfl⟩

theorem lower_ne_empty {s : String} (inhabited : s ≠ "") : lower s ≠ "" := by
  obtain ⟨forms, related, joined⟩ := exists_forms [] s.toList
  intro empty
  rw [lower, joined, String.ofList_eq_empty_iff] at empty
  cases letters : s.toList with
  | nil => exact inhabited (String.toList_eq_nil_iff.mp letters)
  | cons c rest =>
    rw [letters] at related
    cases related with
    | cons isForm _ =>
      rw [List.flatten_cons, List.append_eq_nil_iff] at empty
      rcases isForm with rfl | ⟨-, rfl⟩
      · exact lowerChar_ne_nil c empty.1
      · cases empty.1

/-- Only an ASCII character ends in an ASCII character other than k, and then that is all of its form. -/
theorem IsForm.ascii {form rest : List Char} (isForm : IsForm c form) (last : form.reverse = d :: rest)
    (small : d.toNat < 128) (other : d ≠ 'k') : c.toNat < 128 ∧ rest = [] := by
  rcases isForm with rfl | ⟨-, rfl⟩
  · by_cases dotted : c.toNat = 0x130
    · rw [lowerChar, if_pos dotted] at last
      obtain ⟨rfl, -⟩ := List.cons.inj last
      exact absurd small (by decide)
    · rw [lowerChar, if_neg dotted] at last
      obtain ⟨here, rfl⟩ := List.cons.inj last
      refine ⟨?_, rfl⟩
      rcases mapBy_cases lowerShifts c.toNat with same | ⟨s, listed, covers, mapped⟩
      · rw [same, Char.ofNat_toNat] at here
        exact here ▸ small
      · have forms := toForms_lowerShifts s listed
        have valid := forms.valid
        obtain ⟨i, -, -, place, bounded⟩ := Shift.exists_place forms covers
        have code : d.toNat = (c.toNat + s.shift).toNat := by
          rw [← here, mapped, toNat_ofNat (by unfold Nat.isValidChar; omega)]
        have within := (Shift.covers_iff.mp covers).2.1
        have unlike : d.toNat ≠ 107 := fun same => other (Char.toNat_inj.mp same)
        have := forms.far
        omega
  · obtain ⟨rfl, -⟩ := List.cons.inj last
    exact absurd small (by decide)

/-- Where a text ends in such characters in lower case, it ends in ASCII characters. -/
theorem ascii_of_forms {s : List Char} {forms : List (List Char)} (related : List.Forall₂ IsForm s forms)
    {count : Nat}
    (ends : ∀ d ∈ (forms.map List.reverse).flatten.take count, d.toNat < 128 ∧ d ≠ 'k') :
    ∀ c ∈ s.take count, c.toNat < 128 := by
  induction related generalizing count with
  | nil => simp
  | @cons c form s forms isForm related ih =>
    cases count with
    | zero => simp
    | succ count =>
      cases last : form.reverse with
      | nil =>
        have empty := List.reverse_eq_nil_iff.mp last
        rcases isForm with rfl | ⟨-, rfl⟩
        · exact absurd empty (lowerChar_ne_nil c)
        · cases empty
      | cons d rest =>
        rw [List.map_cons, List.flatten_cons, last] at ends
        obtain ⟨small, other⟩ := ends d (by simp)
        obtain ⟨ascii, rfl⟩ := isForm.ascii last small other
        rw [List.take_succ_cons, List.forall_mem_cons]
        refine ⟨ascii, ih fun e mem => ends e ?_⟩
        rw [List.singleton_append, List.take_succ_cons]
        exact List.mem_cons_of_mem d mem

/-- The last characters of a text are ASCII where the last ones of its lower case are, without k. -/
theorem ascii_of_lower {s : String} {count : Nat}
    (ends : ∀ d ∈ (lower s).toList.reverse.take count, d.toNat < 128 ∧ d ≠ 'k') :
    ∀ c ∈ s.toList.reverse.take count, c.toNat < 128 := by
  obtain ⟨forms, related, joined⟩ := exists_forms [] s.toList
  rw [lower, String.toList_ofList, joined, List.reverse_flatten, ← List.map_reverse] at ends
  exact ascii_of_forms (List.rel_reverse related) ends

/-! ### ASCII -/

/-- Only the first shift matters below all others. -/
theorem mapBy_of_lt {first : Shift} {rest : List Shift} {n limit : Nat}
    (beyond : ∀ s ∈ rest, limit ≤ s.first) (below : n < limit) :
    mapBy (first :: rest) n = mapBy [first] n := by
  have uncovered : mapBy rest n = n := by
    refine mapBy_eq_self fun s mem => Bool.eq_false_iff.mpr fun covers => ?_
    have := beyond s mem
    have := (Shift.covers_iff.mp covers).1
    omega
  rw [mapBy, mapBy, uncovered, mapBy]

theorem tables_beyond_ascii : (∀ s ∈ lowerShifts.tail, 128 ≤ s.first) ∧
    (∀ s ∈ upperShifts.tail, 128 ≤ s.first) ∧ ∀ entry ∈ longUppers, 128 ≤ entry.1 := by
  decide +kernel

/-- An ASCII character is in the classes that the core library has it in, and the first shifts are the only
ones for it. -/
theorem ascii_agrees (ascii : c.toNat < 128) : isUppercase c = c.isUpper ∧ isLowercase c = c.isLower ∧
    isAlphabetic c = c.isAlpha ∧ Char.ofNat (mapBy [⟨65, 90, 1, 32⟩] c.toNat) = c.toLower ∧
    Char.ofNat (mapBy [⟨97, 122, 1, -32⟩] c.toNat) = c.toUpper := by
  have each : ∀ n < 128, let c := Char.ofNat n
      isUppercase c = c.isUpper ∧ isLowercase c = c.isLower ∧ isAlphabetic c = c.isAlpha ∧
        Char.ofNat (mapBy [⟨65, 90, 1, 32⟩] n) = c.toLower ∧
        Char.ofNat (mapBy [⟨97, 122, 1, -32⟩] n) = c.toUpper := by
    decide +kernel
  have here := each c.toNat ascii
  rwa [Char.ofNat_toNat] at here

theorem lowerChar_ascii (ascii : c.toNat < 128) : lowerChar c = [c.toLower] := by
  have mapped : mapBy lowerShifts c.toNat = mapBy [⟨65, 90, 1, 32⟩] c.toNat :=
    mapBy_of_lt tables_beyond_ascii.1 ascii
  obtain ⟨-, -, -, shifted, -⟩ := ascii_agrees ascii
  rw [lowerChar, if_neg (by omega), mapped, shifted]

theorem upperChar_ascii (ascii : c.toNat < 128) : upperChar c = [c.toUpper] := by
  have mapped : mapBy upperShifts c.toNat = mapBy [⟨97, 122, 1, -32⟩] c.toNat :=
    mapBy_of_lt tables_beyond_ascii.2.1 ascii
  obtain ⟨-, -, -, -, shifted⟩ := ascii_agrees ascii
  have short : longUppers.lookup c.toNat = none := by
    refine List.lookup_eq_none_iff.mpr fun entry mem => ?_
    have := tables_beyond_ascii.2.2 entry mem
    rw [bne_iff_ne]
    omega
  rw [upperChar, short, mapped, shifted]

def IsAscii (s : String) : Prop := ∀ c ∈ s.toList, c.toNat < 128

instance (s : String) : Decidable (IsAscii s) :=
  decidable_of_iff (s.toList.all fun c => c.toNat < 128) List.all_iff_forall_prop

/-- An ASCII text has as many bytes as characters. -/
theorem utf8ByteSize_ascii {s : List Char} (ascii : ∀ c ∈ s, c.toNat < 128) :
    (String.ofList s).utf8ByteSize = s.length := by
  induction s with
  | nil => rfl
  | cons c s ih =>
    have one : c.utf8Size = 1 :=
      Char.utf8Size_eq_one_iff.mpr (UInt32.le_iff_toNat_le.mpr
        (Nat.le_of_lt_succ (ascii c List.mem_cons_self)))
    rw [← List.singleton_append, String.ofList_append, String.utf8ByteSize_append,
      ih fun d mem => ascii d (List.mem_cons_of_mem c mem), ← String.singleton_eq_ofList,
      String.utf8ByteSize_singleton, one, List.length_append, List.length_singleton]

theorem lowerFrom_ascii {s : List Char} (ascii : ∀ c ∈ s, c.toNat < 128) (before : List Char) :
    lowerFrom before s = s.map Char.toLower := by
  induction s generalizing before with
  | nil => rfl
  | cons c s ih =>
    have here := ascii c List.mem_cons_self
    rw [lowerFrom, if_neg (by omega), lowerChar_ascii here,
      ih fun d mem => ascii d (List.mem_cons_of_mem c mem)]
    rfl

theorem toList_lower {s : String} (ascii : IsAscii s) :
    (lower s).toList = s.toList.map Char.toLower := by
  rw [lower, String.toList_ofList, lowerFrom_ascii ascii]

theorem toList_upper {s : String} (ascii : IsAscii s) :
    (upper s).toList = s.toList.map Char.toUpper := by
  have forms : s.toList.map upperChar = s.toList.map fun c => [c.toUpper] :=
    List.map_congr_left fun c mem => upperChar_ascii (ascii c mem)
  rw [upper, String.toList_ofList, List.map_eq_flatMap, List.flatMap_def, List.flatMap_def, forms]

/-- The two forms of an ASCII character are ASCII, and what they say about each other. -/
theorem forms_ascii (ascii : c.toNat < 128) :
    c.toLower.toNat < 128 ∧ c.toUpper.toNat < 128 ∧ c.toUpper.toLower = c.toLower ∧
      c.toLower.toLower = c.toLower ∧ c.toLower.isUpper = false ∧
      (c.toLower.isAlpha = true → c.toLower.isLower = true) := by
  have each : ∀ n < 128, let c := Char.ofNat n
      c.toLower.toNat < 128 ∧ c.toUpper.toNat < 128 ∧ c.toUpper.toLower = c.toLower ∧
        c.toLower.toLower = c.toLower ∧ c.toLower.isUpper = false ∧
        (c.toLower.isAlpha = true → c.toLower.isLower = true) := by
    decide +kernel
  have here := each c.toNat ascii
  rwa [Char.ofNat_toNat] at here

theorem IsAscii.lower {s : String} (ascii : IsAscii s) : IsAscii (lower s) := by
  intro c mem
  rw [toList_lower ascii] at mem
  obtain ⟨d, inside, rfl⟩ := List.mem_map.mp mem
  exact (forms_ascii (ascii d inside)).1

theorem IsAscii.upper {s : String} (ascii : IsAscii s) : IsAscii (upper s) := by
  intro c mem
  rw [toList_upper ascii] at mem
  obtain ⟨d, inside, rfl⟩ := List.mem_map.mp mem
  exact (forms_ascii (ascii d inside)).2.1

theorem IsAscii.append {s t : String} (ascii : IsAscii s) (ascii' : IsAscii t) :
    IsAscii (s ++ t) := by
  intro c mem
  rw [String.toList_append, List.mem_append] at mem
  exact mem.elim (ascii c) (ascii' c)

theorem lower_upper {s : String} (ascii : IsAscii s) : Text.lower (Text.upper s) = Text.lower s := by
  rw [← String.toList_inj, toList_lower ascii.upper, toList_upper ascii, toList_lower ascii,
    List.map_map]
  exact List.map_congr_left fun c mem => (forms_ascii (ascii c mem)).2.2.1

theorem lower_lower {s : String} (ascii : IsAscii s) : Text.lower (Text.lower s) = Text.lower s := by
  rw [← String.toList_inj, toList_lower ascii.lower, toList_lower ascii, List.map_map]
  exact List.map_congr_left fun c mem => (forms_ascii (ascii c mem)).2.2.2.1

theorem lower_append {s t : String} (ascii : IsAscii s) (ascii' : IsAscii t) :
    Text.lower (s ++ t) = Text.lower s ++ Text.lower t := by
  rw [← String.toList_inj, toList_lower (ascii.append ascii'), String.toList_append,
    String.toList_append, toList_lower ascii, toList_lower ascii', List.map_append]

end MockApi.Text
