import MockApi.Proofs.Noun.Plurals
import MockApi.Proofs.Route.Matching

/-!
# Slugs

A noun is split into words of lower-case forms of letters and numbers (`isPiece_of_mem_words`), at least one if it
has a letter or a number at all (`words_ne_nil_iff`). The slug joins them, the last one in the plural, and is in
lower case exactly if that word does not shout (`lower_slug_eq_self_iff`): a word of letters that have no case
does.
-/

namespace MockApi

namespace Text

theorem joinWith_cons (separator piece : String) {pieces : List String} (more : pieces ≠ []) :
    joinWith separator (piece :: pieces) = piece ++ separator ++ joinWith separator pieces := by
  cases pieces with
  | nil => exact absurd rfl more
  | cons next rest => rfl

/-- What follows on the last piece follows on the whole. -/
theorem joinWith_append (separator first second : String) (pieces : List String) :
    joinWith separator (pieces ++ [first ++ second]) =
      joinWith separator (pieces ++ [first]) ++ second := by
  induction pieces with
  | nil => rfl
  | cons piece rest ih =>
    rw [List.cons_append, List.cons_append, joinWith_cons _ _ (by simp), joinWith_cons _ _ (by simp), ih,
      ← String.append_assoc]

end Text

namespace Noun

open Text

variable {word noun : String}

/-! ### Words of a noun -/

/-- A character that comes of a letter or a number. -/
def IsPiece (d : Char) : Prop := ∃ c, isAlphanumeric c = true ∧ d ∈ lowerChar c

theorem IsPiece.small {d : Char} (piece : IsPiece d) : lowerChar d = [d] := by
  obtain ⟨c, -, mem⟩ := piece
  exact lowerChar_of_mem mem

/-- It has no meaning in a path or in a template. -/
theorem IsPiece.plain {d : Char} (piece : IsPiece d) : d ∉ ['/', ':', '\x7b'] := by
  obtain ⟨c, alphanumeric, mem⟩ := piece
  rcases lowerChar_cases mem with rfl | ⟨-, far⟩
  · have marks : ∀ mark ∈ ['/', ':', '\x7b'], isAlphanumeric mark = false :=
      List.all_iff_forall_prop.mp (by decide +kernel)
    intro mark
    rw [marks d mark] at alphanumeric
    cases alphanumeric
  · have marks : ∀ mark ∈ ['/', ':', '\x7b'],
        ¬(128 ≤ mark.toNat ∨ 97 ≤ mark.toNat ∧ mark.toNat ≤ 122) :=
      List.all_iff_forall_prop.mp (by decide)
    exact fun mark => marks d mark far

namespace Splitting

/-- The words so far have characters, and these and those of the next word come of letters and numbers. -/
structure Sound (s : Splitting) : Prop where
  inhabited : ∀ word ∈ s.words, word ≠ []
  pieces : ∀ word ∈ s.words, ∀ d ∈ word, IsPiece d
  current : ∀ d ∈ s.current, IsPiece d

theorem Sound.finish {s : Splitting} (sound : s.Sound) : s.finish.Sound := by
  unfold Splitting.finish
  split
  · exact sound
  · rename_i filled
    refine ⟨fun word mem => ?_, fun word mem => ?_, nofun⟩
    · rcases List.mem_append.mp mem with before | here
      · exact sound.inhabited word before
      · cases List.mem_singleton.mp here
        simpa using filled
    · rcases List.mem_append.mp mem with before | here
      · exact sound.pieces word before
      · cases List.mem_singleton.mp here
        exact sound.current

theorem Sound.step {s : Splitting} (sound : s.Sound) (c : Char) : (s.step c).Sound := by
  unfold Splitting.step
  split
  · exact ⟨sound.finish.inhabited, sound.finish.pieces, sound.finish.current⟩
  · rename_i alphanumeric
    have grow {s : Splitting} (sound : s.Sound) (afterSmall : Bool) :
        Sound ⟨s.words, s.current ++ lowerChar c, afterSmall⟩ := by
      refine ⟨sound.inhabited, sound.pieces, fun d mem => ?_⟩
      rcases List.mem_append.mp mem with before | here
      · exact sound.current d before
      · exact ⟨c, by simpa using alphanumeric, here⟩
    simp only
    split
    · exact grow sound.finish _
    · exact grow sound _

/-- Something was found that belongs to a word. -/
def Begun (s : Splitting) : Prop := s.words ≠ [] ∨ s.current ≠ []

theorem begun_finish {s : Splitting} : s.finish.Begun ↔ s.Begun := by
  unfold Splitting.finish Begun
  split
  · exact Iff.rfl
  · rename_i filled
    simp_all

theorem words_finish {s : Splitting} : s.finish.words ≠ [] ↔ s.Begun := by
  unfold Splitting.finish Begun
  split
  · rename_i empty
    simp_all
  · rename_i filled
    simp_all

theorem begun_step {s : Splitting} {c : Char} :
    (s.step c).Begun ↔ s.Begun ∨ isAlphanumeric c = true := by
  unfold Splitting.step
  cases alphanumeric : isAlphanumeric c with
  | false => simpa [Begun] using begun_finish
  | true => simp [Begun, lowerChar_ne_nil]

theorem sound_foldl {s : Splitting} (sound : s.Sound) (cs : List Char) : (cs.foldl step s).Sound := by
  induction cs generalizing s with
  | nil => exact sound
  | cons c cs ih => exact ih (sound.step c)

theorem begun_foldl {s : Splitting} {cs : List Char} :
    (cs.foldl step s).Begun ↔ s.Begun ∨ ∃ c ∈ cs, isAlphanumeric c = true := by
  induction cs generalizing s with
  | nil => simp
  | cons c cs ih =>
    rw [List.foldl_cons, ih, begun_step, or_assoc]
    simp

end Splitting

theorem words_ne_nil_iff : words noun ≠ [] ↔ ∃ c ∈ noun.toList, isAlphanumeric c = true := by
  rw [words, Ne, List.map_eq_nil_iff, ← Ne, Splitting.words_finish, Splitting.begun_foldl]
  simp [Splitting.Begun]

theorem isPiece_of_mem_words (mem : word ∈ words noun) :
    word ≠ "" ∧ ∀ d ∈ word.toList, IsPiece d := by
  have start : Splitting.Sound ⟨[], [], false⟩ := ⟨nofun, nofun, nofun⟩
  have sound := (Splitting.sound_foldl start noun.toList).finish
  obtain ⟨chars, inside, rfl⟩ := List.mem_map.mp mem
  rw [String.toList_ofList]
  refine ⟨fun empty => sound.inhabited chars inside ?_, sound.pieces chars inside⟩
  exact String.ofList_eq_empty_iff.mp empty

/-! ### The plural of the last word -/

theorem pluralizeLast_append (front : List String) (last : String) :
    pluralizeLast (front ++ [last]) = front ++ [pluralize last] := by
  induction front with
  | nil => rfl
  | cons word rest ih =>
    cases rest with
    | nil => rfl
    | cons next rest =>
      rw [List.cons_append, pluralizeLast]
      · rw [ih]
        rfl
      · simp

/-- A word without small letters is regular, whatever it ends in. -/
theorem endingOf_of_isShouting (shouting : isShouting word = true) : endingOf word = (0, "s") := by
  rw [isShouting_eq, Bool.and_eq_true, Bool.not_eq_true', List.any_eq_false] at shouting
  obtain ⟨letter, capitals⟩ := shouting
  have unlike {d : Char} (mem : d ∈ word.toList) : d ∉ ['y', 's', 'x', 'z', 'h', 'e', 'f'] := by
    have letters : ∀ d ∈ ['y', 's', 'x', 'z', 'h', 'e', 'f'], 97 ≤ d.toNat ∧ d.toNat ≤ 122 :=
      List.all_iff_forall_prop.mp (by decide)
    exact fun listed => capitals d mem (small_letter (letters d listed)).2.1
  have unlisted : word ∉ oWithEs := by
    have small : ∀ w ∈ oWithEs, w.toList.any isLowercase = true := by decide +kernel
    intro listed
    obtain ⟨d, mem, lowercase⟩ := List.any_eq_true.mp (small word listed)
    exact capitals d mem lowercase
  unfold endingOf
  cases backward : word.toList.reverse with
  | nil =>
    rw [List.reverse_eq_nil_iff.mp backward] at letter
    cases letter
  | cons last before =>
    have here := unlike (d := last) (by rw [← List.mem_reverse, backward]; exact List.mem_cons_self)
    simp only [List.mem_cons, List.not_mem_nil, or_false, not_or] at here
    simp [here, unlisted]

theorem isPlain_of_irregular {result : String} (small : Small word.toList)
    (irregular : irregularPlural word = some result) :
    IsPlain word ∧ ∃ plural, IsPlain plural ∧ result = matchCapitals word plural := by
  obtain ⟨entry, listed, named, -, rfl⟩ := irregularPlural_eq_some irregular
  rw [lower_eq_self small] at named
  obtain ⟨singular, plural⟩ := isPlain_irregularNouns entry listed
  refine ⟨?_, entry.2, plural, rfl⟩
  rcases named with rfl | rfl
  · exact singular
  · exact plural

/-- A word that shouts has a capital for its ending, also in lower case. -/
theorem pluralize_of_shouting (small : Small word.toList) (shouting : shoutsEnding word = true) :
    pluralize word = word ++ "S" := by
  obtain ⟨loud, -⟩ := Bool.and_eq_true_iff.mp shouting
  have regular : irregularPlural word = none := by
    cases irregular : irregularPlural word with
    | none => rfl
    | some result =>
      rw [(isPlain_of_irregular small irregular).1.isShouting_eq_false] at loud
      cases loud
  have inhabited : word ≠ "" := by
    rintro rfl
    rw [isShouting_eq] at loud
    cases loud
  have capital : upper "s" = "S" := by
    have ascii : IsAscii "s" := by decide
    rw [← String.toList_inj, toList_upper ascii]
    rfl
  have kept : dropLast 0 word = word := by
    rw [dropLast, Nat.sub_zero, ← String.length_toList, List.take_length, String.ofList_toList]
  rw [pluralize, regular, Option.getD_none, regularPlural_eq inhabited, lower_eq_self small,
    endingOf_of_isShouting loud, matchEnding, shouting, if_pos rfl, capital, kept]

theorem small_pluralize (small : Small word.toList) (inhabited : word ≠ "")
    (quiet : shoutsEnding word = false) : Small (pluralize word).toList := by
  cases irregular : irregularPlural word with
  | some result =>
    obtain ⟨plain, plural, plain', rfl⟩ := isPlain_of_irregular small irregular
    rw [pluralize, irregular, Option.getD_some, matchCapitals_of_quiet quiet plain.not_capital]
    intro c mem
    rw [lowerChar_ascii (plain'.ascii c mem), (small_letter (plain'.letters c mem)).1]
  | none =>
    obtain ⟨-, listed, -⟩ := endingOf_spec (lower_ne_empty inhabited)
    rw [pluralize, irregular, Option.getD_none, regularPlural_eq inhabited, matchEnding_of_quiet quiet]
    intro c mem
    rw [String.toList_append, List.mem_append, toList_dropLast] at mem
    rcases mem with kept | ending
    · exact small c (List.mem_of_mem_take kept)
    · exact (isWritten_matchEnding word listed).small c ending

/-- The plural has the letters of the word, and letters of ASCII. -/
theorem mem_pluralize {d : Char} (inhabited : word ≠ "") (mem : d ∈ (pluralize word).toList) :
    d ∈ word.toList ∨ d.isAlpha = true := by
  cases irregular : irregularPlural word with
  | some result =>
    obtain ⟨entry, listed, -, -, rfl⟩ := irregularPlural_eq_some irregular
    rw [pluralize, irregular, Option.getD_some] at mem
    exact .inr ((isPlain_irregularNouns entry listed).2.isAlpha_matchCapitals word d mem)
  | none =>
    obtain ⟨-, listed, -⟩ := endingOf_spec (lower_ne_empty inhabited)
    rw [pluralize, irregular, Option.getD_none, regularPlural_eq inhabited, String.toList_append,
      List.mem_append, toList_dropLast] at mem
    rcases mem with kept | ending
    · exact .inl (List.mem_of_mem_take kept)
    · exact .inr ((isWritten_matchEnding word listed).letters d ending)

theorem pluralize_ne_empty (inhabited : word ≠ "") : pluralize word ≠ "" := by
  intro empty
  cases irregular : irregularPlural word with
  | some result =>
    obtain ⟨entry, listed, -, -, rfl⟩ := irregularPlural_eq_some irregular
    have plain := (isPlain_irregularNouns entry listed).2
    rw [pluralize, irregular, Option.getD_some] at empty
    have same := plain.lower_matchCapitals word
    rw [empty] at same
    have long := plain.long
    rw [← same] at long
    exact absurd long (by decide)
  | none =>
    obtain ⟨kept, dropped, ending, -, -, plural, longer, -⟩ := regularPlural_extends inhabited
    rw [pluralize, irregular, Option.getD_none, plural] at empty
    have length := congrArg String.length empty
    rw [String.length_append, String.length_empty] at length
    omega

/-! ### Slugs of nouns -/

section Slug

variable {front : List String} {last : String}

theorem slug_eq (split : words noun = front ++ [last]) :
    slug noun = joinWith "-" (front ++ [pluralize last]) := by
  rw [slug, split, pluralizeLast_append]

theorem slug_ne_empty (split : words noun = front ++ [last]) : slug noun ≠ "" := by
  have inhabited := (isPiece_of_mem_words (split ▸ List.mem_append_right front List.mem_cons_self)).1
  have behind : pluralize last = "" ++ pluralize last := String.empty_append.symm
  rw [slug_eq split, behind, joinWith_append]
  intro empty
  exact pluralize_ne_empty inhabited (String.append_eq_empty_iff.mp empty).2

/-- No character of a slug has a meaning in a path or in a template. -/
theorem plain_of_mem_slug (split : words noun = front ++ [last]) {d : Char}
    (mem : d ∈ (slug noun).toList) : d ∉ ['/', ':', '\x7b'] := by
  have pieces (word : String) (part : word ∈ front ++ [last]) :=
    isPiece_of_mem_words (split ▸ part)
  rw [slug_eq split] at mem
  rcases mem_joinWith mem with hyphen | ⟨piece, part, inside⟩
  · obtain rfl := List.mem_singleton.mp hyphen
    decide
  · rcases List.mem_append.mp part with before | here
    · exact ((pieces piece (List.mem_append_left _ before)).2 d inside).plain
    · obtain rfl := List.mem_singleton.mp here
      obtain ⟨inhabited, letters⟩ := pieces last (by simp)
      rcases mem_pluralize inhabited inside with kept | letter
      · exact (letters d kept).plain
      · have marks : ∀ mark ∈ ['/', ':', '\x7b'], mark.isAlpha = false :=
          List.all_iff_forall_prop.mp (by decide)
        intro mark
        rw [marks d mark] at letter
        cases letter

theorem small_joinWith {pieces : List String} (small : ∀ piece ∈ pieces, Small piece.toList) :
    Small (joinWith "-" pieces).toList := by
  have hyphen_small : lowerChar '-' = ['-'] := lowerChar_ascii (by decide)
  intro c mem
  rcases mem_joinWith mem with hyphen | ⟨piece, part, inside⟩
  · obtain rfl := List.mem_singleton.mp hyphen
    exact hyphen_small
  · exact small piece part c inside

/-- A slug is in lower case unless its last word shouts. -/
theorem lower_slug_eq_self_iff (split : words noun = front ++ [last]) :
    lower (slug noun) = slug noun ↔ shoutsEnding last = false := by
  have small : ∀ word ∈ front ++ [last], Small word.toList := fun word part d inside =>
    ((isPiece_of_mem_words (split ▸ part)).2 d inside).small
  have last_small := small last (by simp)
  rw [slug_eq split]
  cases shouting : shoutsEnding last with
  | false =>
    have inhabited := (isPiece_of_mem_words (split ▸ List.mem_append_right front List.mem_cons_self)).1
    refine iff_of_true (lower_eq_self (small_joinWith fun piece part => ?_)) rfl
    rcases List.mem_append.mp part with before | here
    · exact small piece (List.mem_append_left _ before)
    · obtain rfl := List.mem_singleton.mp here
      exact small_pluralize last_small inhabited shouting
  | true =>
    refine iff_of_false (fun same => ?_) (by simp)
    rw [pluralize_of_shouting last_small shouting, joinWith_append] at same
    have letters := congrArg String.toList same
    rw [lower, String.toList_ofList, String.toList_append, lowerFrom_append (small_joinWith small)] at letters
    have capital := List.append_cancel_left letters
    have written : "S".toList = ['S'] := rfl
    have form : lowerChar 'S' = ['s'] := lowerChar_ascii (by decide)
    rw [written, lowerFrom, if_neg (by decide), form] at capital
    exact absurd (List.cons.inj capital).1 (by decide)

end Slug

end Noun

end MockApi
