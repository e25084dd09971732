import MockApi.Noun
import MockApi.Proofs.Text.Case

/-!
# Plurals of words

The plural of an ASCII word is the same in any case, but for the case (`lower_pluralize`). The rules for regular
nouns put a longer ending in place of at most two characters (`regularPlural_extends`), and the plural of an
irregular noun is its own plural (`pluralize_pluralize`).
-/

namespace MockApi.Noun

open Text

variable {word plural ending : String}

/-! ### Capitals -/

theorem isShouting_eq (word : String) :
    isShouting word = (word.toList.any isAlphabetic && !word.toList.any isLowercase) := by
  rw [isShouting, String.any, String.contains_bool_eq, String.any, String.contains_bool_eq]

theorem isShouting_eq_false (quiet : ∀ c ∈ word.toList, isAlphabetic c = true → isLowercase c = true) :
    isShouting word = false := by
  rw [isShouting_eq, Bool.and_eq_false_iff, Bool.not_eq_false', List.any_eq_true]
  by_cases letter : word.toList.any isAlphabetic = true
  · obtain ⟨c, mem, alphabetic⟩ := List.any_eq_true.mp letter
    exact .inr ⟨c, mem, quiet c mem alphabetic⟩
  · exact .inl (Bool.eq_false_iff.mpr letter)

/-- A word in lower case does not shout. -/
theorem shoutsEnding_lower (ascii : IsAscii word) : shoutsEnding (lower word) = false := by
  have quiet : isShouting (lower word) = false := by
    refine isShouting_eq_false fun c mem alphabetic => ?_
    have small := ascii.lower c mem
    rw [toList_lower ascii] at mem
    obtain ⟨d, inside, rfl⟩ := List.mem_map.mp mem
    obtain ⟨-, lowercase, letters, -⟩ := ascii_agrees small
    rw [lowercase]
    exact (forms_ascii (ascii d inside)).2.2.2.2.2 (letters ▸ alphabetic)
  rw [shoutsEnding, quiet, Bool.false_and]

theorem matchEnding_of_quiet (quiet : shoutsEnding word = false) (ending : String) :
    matchEnding word ending = ending := by
  rw [matchEnding, quiet, if_neg (by simp)]

/-- With a capital first. -/
def capitalized (plural : String) : String :=
  match plural.toList with
  | [] => ""
  | p :: rest => String.ofList (upperChar p ++ rest)

/-- The plural is written in one of three ways. -/
theorem matchCapitals_cases (word plural : String) :
    matchCapitals word plural = upper plural ∨ matchCapitals word plural = capitalized plural ∨
      matchCapitals word plural = plural := by
  unfold matchCapitals
  split
  · exact .inl rfl
  · split
    · rename_i first others p rest _ letters
      split
      · refine .inr (.inl ?_)
        rw [capitalized, letters]
      · exact .inr (.inr rfl)
    · exact .inr (.inr rfl)

/-- At least two small letters, and nothing else. -/
structure IsPlain (word : String) : Prop where
  letters : ∀ c ∈ word.toList, 97 ≤ c.toNat ∧ c.toNat ≤ 122
  long : 2 ≤ word.length

theorem isPlain_iff : IsPlain word ↔
    (word.toList.all fun c => 97 ≤ c.toNat ∧ c.toNat ≤ 122) = true ∧ 2 ≤ word.length := by
  rw [List.all_iff_forall_prop]
  exact ⟨fun plain => ⟨plain.letters, plain.long⟩, fun ⟨letters, long⟩ => ⟨letters, long⟩⟩

instance (word : String) : Decidable (IsPlain word) := decidable_of_iff _ isPlain_iff.symm

theorem isPlain_irregularNouns : ∀ entry ∈ irregularNouns, IsPlain entry.1 ∧ IsPlain entry.2 := by
  decide +kernel

theorem small_letter {c : Char} (letter : 97 ≤ c.toNat ∧ c.toNat ≤ 122) :
    c.toLower = c ∧ isLowercase c = true ∧ isUppercase c = false ∧ isUppercase c.toUpper = true ∧
      isLowercase c.toUpper = false ∧ isAlphabetic c.toUpper = true ∧ c.toUpper.toLower = c := by
  have each : ∀ n < 128, 97 ≤ n → n ≤ 122 → let c := Char.ofNat n
      c.toLower = c ∧ isLowercase c = true ∧ isUppercase c = false ∧ isUppercase c.toUpper = true ∧
        isLowercase c.toUpper = false ∧ isAlphabetic c.toUpper = true ∧ c.toUpper.toLower = c := by
    decide +kernel
  have here := each c.toNat (by omega) letter.1 letter.2
  rwa [Char.ofNat_toNat] at here

namespace IsPlain

theorem ascii (plain : IsPlain plural) : IsAscii plural :=
  fun c mem => Nat.lt_of_le_of_lt (plain.letters c mem).2 (by decide)

theorem lower_eq (plain : IsPlain plural) : lower plural = plural := by
  rw [← String.toList_inj, toList_lower plain.ascii]
  exact (List.map_congr_left fun c mem => (small_letter (plain.letters c mem)).1).trans (List.map_id _)

theorem isShouting_eq_false (plain : IsPlain plural) : isShouting plural = false :=
  Noun.isShouting_eq_false fun c mem _ => (small_letter (plain.letters c mem)).2.1

theorem not_capital (plain : IsPlain plural) :
    ∀ first ∈ plural.toList.head?, isUppercase first = false :=
  fun first head => (small_letter (plain.letters first (List.mem_of_mem_head? head))).2.2.1

theorem exists_cons (plain : IsPlain plural) :
    ∃ first second rest, plural.toList = first :: second :: rest := by
  have long := plain.long
  rw [← String.length_toList] at long
  match plural.toList, long with
  | first :: second :: rest, _ => exact ⟨first, second, rest, rfl⟩

theorem toList_capitalized (plain : IsPlain plural) {first : Char} {rest : List Char}
    (letters : plural.toList = first :: rest) :
    (capitalized plural).toList = first.toUpper :: rest := by
  have small : first ∈ plural.toList := letters ▸ List.mem_cons_self
  rw [capitalized, letters]
  simp only [String.toList_ofList]
  rw [upperChar_ascii (plain.ascii first small)]
  rfl

/-- However it is written, the plural is the same in lower case. -/
theorem lower_matchCapitals (plain : IsPlain plural) (word : String) :
    lower (matchCapitals word plural) = plural := by
  rcases matchCapitals_cases word plural with same | same | same <;> rw [same]
  · rw [lower_upper plain.ascii, plain.lower_eq]
  · obtain ⟨first, second, rest, letters⟩ := plain.exists_cons
    have small (c : Char) (mem : c ∈ first :: second :: rest) :=
      small_letter (plain.letters c (letters ▸ mem))
    have spelled := plain.toList_capitalized letters
    have ascii : IsAscii (capitalized plural) := by
      intro c mem
      rw [spelled] at mem
      rcases List.mem_cons.mp mem with rfl | mem
      · exact (forms_ascii (plain.ascii first (letters ▸ List.mem_cons_self))).2.1
      · exact plain.ascii c (letters ▸ List.mem_cons_of_mem _ mem)
    rw [← String.toList_inj, toList_lower ascii, spelled, List.map_cons,
      (small first List.mem_cons_self).2.2.2.2.2.2, letters]
    exact congrArg (first :: ·) ((List.map_congr_left fun c mem =>
      (small c (List.mem_cons_of_mem _ mem)).1).trans (List.map_id _))
  · exact plain.lower_eq

end IsPlain

theorem matchCapitals_of_quiet (quiet : shoutsEnding word = false)
    (small : ∀ first ∈ word.toList.head?, isUppercase first = false) (plural : String) :
    matchCapitals word plural = plural := by
  rw [matchCapitals, quiet, if_neg (by simp)]
  split
  · rename_i first others p rest letters _
    rw [small first (by rw [letters]; rfl), if_neg (by simp)]
  · rfl

namespace IsPlain

theorem shoutsEnding_upper (plain : IsPlain plural) : shoutsEnding (upper plural) = true := by
  have spelled := toList_upper plain.ascii
  have long : 1 < (upper plural).length := by
    rw [← String.length_toList, spelled, List.length_map, String.length_toList]
    exact plain.long
  have letter : (upper plural).toList.any isAlphabetic = true := by
    obtain ⟨first, second, rest, letters⟩ := plain.exists_cons
    have here : first ∈ plural.toList := letters ▸ List.mem_cons_self
    rw [spelled, List.any_eq_true]
    exact ⟨_, List.mem_map_of_mem here, (small_letter (plain.letters first here)).2.2.2.2.2.1⟩
  have capitals : (upper plural).toList.any isLowercase = false := by
    rw [spelled, List.any_eq_false]
    intro c mem
    obtain ⟨d, inside, rfl⟩ := List.mem_map.mp mem
    rw [(small_letter (plain.letters d inside)).2.2.2.2.1]
    simp
  rw [shoutsEnding, isShouting_eq, letter, capitals, decide_eq_true long]
  rfl

theorem isAlpha_matchCapitals (plain : IsPlain plural) (word : String) :
    ∀ c ∈ (matchCapitals word plural).toList, c.isAlpha = true := by
  have letter {c : Char} (mem : c ∈ plural.toList) : c.isAlpha = true ∧ c.toUpper.isAlpha = true := by
    have ascii := plain.ascii c mem
    obtain ⟨-, lowercase, -, -, -, alphabetic, -⟩ := small_letter (plain.letters c mem)
    constructor
    · exact Bool.or_eq_true_iff.mpr (.inr ((ascii_agrees ascii).2.1 ▸ lowercase))
    · rw [← (ascii_agrees (forms_ascii ascii).2.1).2.2.1, alphabetic]
  intro c mem
  rcases matchCapitals_cases word plural with same | same | same <;> rw [same] at mem
  · rw [toList_upper plain.ascii] at mem
    obtain ⟨d, inside, rfl⟩ := List.mem_map.mp mem
    exact (letter inside).2
  · obtain ⟨first, second, rest, letters⟩ := plain.exists_cons
    rw [plain.toList_capitalized letters] at mem
    rcases List.mem_cons.mp mem with rfl | mem
    · exact (letter (letters ▸ List.mem_cons_self)).2
    · exact (letter (letters ▸ List.mem_cons_of_mem _ mem)).1
  · exact (letter mem).1

/-- The capitals of a plural are those that it is given. -/
theorem matchCapitals_matchCapitals (plain : IsPlain plural) (word : String) :
    matchCapitals (matchCapitals word plural) plural = matchCapitals word plural := by
  obtain ⟨first, second, rest, letters⟩ := plain.exists_cons
  have small (c : Char) (mem : c ∈ first :: second :: rest) :=
    small_letter (plain.letters c (letters ▸ mem))
  have second_small := (small second (by simp)).2.1
  rcases matchCapitals_cases word plural with same | same | same <;> rw [same]
  · rw [matchCapitals, plain.shoutsEnding_upper, if_pos rfl]
  · have spelled := plain.toList_capitalized letters
    have quiet : shoutsEnding (capitalized plural) = false := by
      rw [shoutsEnding, isShouting_eq, spelled]
      simp [second_small]
    rw [matchCapitals, quiet, if_neg (by simp), spelled, letters]
    simp only
    rw [(small first List.mem_cons_self).2.2.2.1, if_pos rfl, capitalized, letters]
  · have quiet : shoutsEnding plural = false := by
      rw [shoutsEnding, plain.isShouting_eq_false, Bool.false_and]
    exact matchCapitals_of_quiet quiet plain.not_capital plural

end IsPlain

/-! ### Irregular nouns -/

/-- Each plural is found in the table under itself. -/
theorem find?_plural {entry : String × String} (listed : entry ∈ irregularNouns) :
    ∃ found, irregularNouns.find? (fun e => e.1 == entry.2 || e.2 == entry.2) = some found ∧
      found.2 = entry.2 := by
  have checked : ∀ entry ∈ irregularNouns,
      (irregularNouns.find? fun e => e.1 == entry.2 || e.2 == entry.2).map (·.2) = some entry.2 := by
    decide +kernel
  exact Option.map_eq_some_iff.mp (checked entry listed)

theorem irregularPlural_eq_some {result : String} (irregular : irregularPlural word = some result) :
    ∃ entry ∈ irregularNouns, (entry.1 = lower word ∨ entry.2 = lower word) ∧
      irregularNouns.find? (fun e => e.1 == lower word || e.2 == lower word) = some entry ∧
      result = matchCapitals word entry.2 := by
  obtain ⟨entry, found, rfl⟩ := Option.map_eq_some_iff.mp irregular
  have named := List.find?_some found
  simp only [Bool.or_eq_true, beq_iff_eq] at named
  exact ⟨entry, List.mem_of_find?_eq_some found, named, found, rfl⟩

/-- The plural of an irregular noun, singular or plural, is its own plural. -/
theorem pluralize_pluralize {entry : String × String} (listed : entry ∈ irregularNouns)
    (named : lower word = entry.1 ∨ lower word = entry.2) :
    pluralize (pluralize word) = pluralize word := by
  have present : (irregularNouns.find? fun e => e.1 == lower word || e.2 == lower word).isSome := by
    rw [List.find?_isSome]
    exact ⟨entry, listed, by rcases named with same | same <;> simp [same]⟩
  obtain ⟨found, search⟩ := Option.isSome_iff_exists.mp present
  have member := List.mem_of_find?_eq_some search
  have plain := (isPlain_irregularNouns found member).2
  have once : pluralize word = matchCapitals word found.2 := by
    rw [pluralize, irregularPlural, search, Option.map_some, Option.getD_some]
  obtain ⟨again, search', same⟩ := find?_plural member
  rw [once, pluralize, irregularPlural, plain.lower_matchCapitals, search', Option.map_some, same,
    plain.matchCapitals_matchCapitals, Option.getD_some]

/-! ### Endings -/

def endings : List String := ["ies", "es", "ves", "s"]

/-- Some ending takes the place of fewer characters, which are of three letters. -/
theorem endingOf_spec {w : String} (inhabited : w ≠ "") :
    (endingOf w).1 < (endingOf w).2.length ∧ (endingOf w).2 ∈ endings ∧
      ∀ c ∈ w.toList.reverse.take (endingOf w).1, c ∈ ['y', 'e', 'f'] := by
  unfold endingOf
  cases backward : w.toList.reverse with
  | nil => exact absurd (String.toList_eq_nil_iff.mp (List.reverse_eq_nil_iff.mp backward)) inhabited
  | cons last before =>
    simp only
    split
    · rename_i y
      exact ⟨by decide, by decide, by simp [y.1]⟩
    split
    · exact ⟨by decide, by decide, by simp⟩
    split
    · rename_i fe
      obtain ⟨-, rfl, previous, -⟩ := fe
      cases before with
      | nil => cases previous
      | cons c before =>
        cases previous
        exact ⟨by decide, by decide, by simp⟩
    split
    · rename_i f
      exact ⟨by decide, by decide, by simp [f.2.1]⟩
    split <;> exact ⟨by decide, by decide, by simp⟩

/-- What an ending is when it is written in small letters or in capitals: it has as many bytes as it has
letters. -/
structure IsWritten (ending written : String) : Prop where
  short : ending.length ≤ 3
  length : written.length = ending.length
  bytes : written.utf8ByteSize = ending.length
  ascii : IsAscii written
  letters : ∀ c ∈ written.toList, c.isAlpha = true
  lower_eq : lower written = ending
  small : Small ending.toList

theorem isWritten_matchEnding (word : String) (listed : ending ∈ endings) :
    IsWritten ending (matchEnding word ending) := by
  have checked : ∀ ending ∈ endings, ∀ written ∈ [upper ending, ending],
      ending.length ≤ 3 ∧ written.length = ending.length ∧ written.utf8ByteSize = ending.length ∧
        IsAscii written ∧ written.toList.all Char.isAlpha = true ∧ lower written = ending ∧
        Small ending.toList := by
    decide +kernel
  have either : matchEnding word ending ∈ [upper ending, ending] := by
    unfold matchEnding
    split <;> simp
  obtain ⟨short, length, bytes, ascii, letters, lower_eq, small⟩ := checked ending listed _ either
  exact ⟨short, length, bytes, ascii, List.all_eq_true.mp letters, lower_eq, small⟩

theorem regularPlural_eq (inhabited : word ≠ "") :
    regularPlural word = dropLast (endingOf (lower word)).1 word ++
      matchEnding word (endingOf (lower word)).2 := by
  have filled : (lower word).isEmpty = false := by
    rw [Bool.eq_false_iff, Ne, String.isEmpty_iff]
    exact lower_ne_empty inhabited
  simp only [regularPlural, filled, Bool.false_eq_true, if_false]

theorem dropLast_append (count : Nat) (word : String) :
    word = dropLast count word ++ String.ofList (word.toList.drop (word.length - count)) := by
  rw [dropLast, ← String.ofList_append, List.take_append_drop, String.ofList_toList]

/-- An ending in place of at most two characters makes a word longer, also in bytes. -/
theorem regularPlural_extends (inhabited : word ≠ "") :
    ∃ kept dropped ending : String, word = kept ++ dropped ∧ dropped.length ≤ 2 ∧
      regularPlural word = kept ++ ending ∧ dropped.length < ending.length ∧
      dropped.utf8ByteSize < ending.utf8ByteSize := by
  obtain ⟨fewer, listed, letters⟩ := endingOf_spec (lower_ne_empty inhabited)
  obtain ⟨short, length, bytes, -⟩ := isWritten_matchEnding word listed
  have ascii : ∀ c ∈ word.toList.drop (word.length - (endingOf (lower word)).1), c.toNat < 128 := by
    have plain : ∀ d ∈ ['y', 'e', 'f'], d.toNat < 128 ∧ d ≠ 'k' :=
      List.all_iff_forall_prop.mp (by decide)
    have last := ascii_of_lower fun d mem => plain d (letters d mem)
    rw [List.take_reverse, String.length_toList] at last
    exact fun c mem => last c (List.mem_reverse.mpr mem)
  have dropped : (word.toList.drop (word.length - (endingOf (lower word)).1)).length ≤
      (endingOf (lower word)).1 := by
    rw [List.length_drop, String.length_toList]
    omega
  refine ⟨_, _, _, dropLast_append (endingOf (lower word)).1 word, ?_, regularPlural_eq inhabited, ?_, ?_⟩
  · rw [String.length_ofList]
    omega
  · rw [String.length_ofList, length]
    omega
  · rw [utf8ByteSize_ascii ascii, bytes]
    omega

/-! ### Words in any case -/

theorem toList_dropLast (count : Nat) (word : String) :
    (dropLast count word).toList = word.toList.take (word.length - count) := by
  rw [dropLast, String.toList_ofList]

theorem lower_regularPlural (ascii : IsAscii word) :
    lower (regularPlural word) = regularPlural (lower word) := by
  by_cases inhabited : word = ""
  · subst inhabited
    rfl
  have filled := lower_ne_empty inhabited
  obtain ⟨-, listed, -⟩ := endingOf_spec filled
  have written := isWritten_matchEnding word listed
  have kept : IsAscii (dropLast (endingOf (lower word)).1 word) := by
    intro c mem
    rw [toList_dropLast] at mem
    exact ascii c (List.mem_of_mem_take mem)
  have lengths : (lower word).length = word.length := by
    rw [← String.length_toList, toList_lower ascii, List.length_map, String.length_toList]
  have start : lower (dropLast (endingOf (lower word)).1 word) =
      dropLast (endingOf (lower word)).1 (lower word) := by
    rw [← String.toList_inj, toList_lower kept, toList_dropLast, toList_dropLast, toList_lower ascii,
      List.map_take, lengths]
  rw [regularPlural_eq inhabited, lower_append kept written.ascii, start, written.lower_eq, regularPlural_eq filled,
    lower_lower ascii, matchEnding_of_quiet (shoutsEnding_lower ascii)]

theorem lower_pluralize (ascii : IsAscii word) :
    lower (pluralize word) = pluralize (lower word) := by
  have folded : lower (lower word) = lower word := lower_lower ascii
  cases irregular : irregularPlural word with
  | none =>
    have regular : irregularPlural (lower word) = none := by
      rw [irregularPlural, Option.map_eq_none_iff] at irregular ⊢
      rw [folded, irregular]
    rw [pluralize, pluralize, irregular, regular, Option.getD_none, Option.getD_none]
    exact lower_regularPlural ascii
  | some result =>
    obtain ⟨entry, listed, -, found, rfl⟩ := irregularPlural_eq_some irregular
    have plain := (isPlain_irregularNouns entry listed).2
    have quiet : matchCapitals (lower word) entry.2 = entry.2 := by
      refine matchCapitals_of_quiet (shoutsEnding_lower ascii) (fun first head => ?_) entry.2
      rw [toList_lower ascii, List.head?_map] at head
      obtain ⟨c, first_letter, rfl⟩ := Option.map_eq_some_iff.mp head
      have mem := List.mem_of_mem_head? first_letter
      rw [(ascii_agrees (forms_ascii (ascii c mem)).1).1]
      exact (forms_ascii (ascii c mem)).2.2.2.2.1
    rw [pluralize, pluralize, irregular, irregularPlural, folded, found, Option.map_some, quiet,
      Option.getD_some, Option.getD_some]
    exact plain.lower_matchCapitals word

/-- Case does not count for the plurals of ASCII words; the rules for regular nouns keep all but at most two
characters and make a word longer, in characters and in bytes; and the plural of an irregular noun stays. -/
theorem pluralize_ignores_case_extends_and_stays :
    (∀ word, IsAscii word → lower (pluralize word) = pluralize (lower word)) ∧
    (∀ word, word ≠ "" → word.length < (regularPlural word).length ∧
      word.utf8ByteSize < (regularPlural word).utf8ByteSize ∧
      ∃ kept dropped ending : String, word = kept ++ dropped ∧ dropped.length ≤ 2 ∧
        regularPlural word = kept ++ ending) ∧
    (∀ word, (∃ entry ∈ irregularNouns, lower word = entry.1 ∨ lower word = entry.2) →
      pluralize (pluralize word) = pluralize word) := by
  refine ⟨fun word ascii => lower_pluralize ascii, fun word inhabited => ?_,
    fun word ⟨entry, listed, named⟩ => pluralize_pluralize listed named⟩
  obtain ⟨kept, dropped, ending, split, short, plural, longer, more⟩ := regularPlural_extends inhabited
  rw [plural]
  refine ⟨?_, ?_, kept, dropped, ending, split, short, rfl⟩
  · rw [split, String.length_append, String.length_append]
    omega
  · rw [split, String.utf8ByteSize_append, String.utf8ByteSize_append]
    omega

theorem pluralize_ignores_case_extends_and_stays_matrix :
    IsAscii "MATrix" ∧ lower (pluralize "MATrix") = pluralize (lower "MATrix") ∧
    "MATrix" ≠ "" ∧ "MATrix".length < (regularPlural "MATrix").length ∧
    (∃ entry ∈ irregularNouns, lower "MATrix" = entry.1 ∨ lower "MATrix" = entry.2) ∧
    pluralize (pluralize "MATrix") = pluralize "MATrix" := by
  have inhabited : "MATrix" ≠ "" := by decide
  obtain ⟨ascii, listed⟩ : IsAscii "MATrix" ∧
      ∃ entry ∈ irregularNouns, lower "MATrix" = entry.1 ∨ lower "MATrix" = entry.2 := by
    decide +kernel
  obtain ⟨caseless, longer, stays⟩ := pluralize_ignores_case_extends_and_stays
  exact ⟨ascii, caseless _ ascii, inhabited, (longer _ inhabited).1, listed, stays _ listed⟩

end MockApi.Noun
