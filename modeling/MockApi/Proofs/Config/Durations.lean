import MockApi.Config.Duration
import MockApi.Proofs.Text.Parts

/-!
# Durations are read as they are written

The texts that are read as durations are a number below `2 ^ 64` and a unit behind it (`Duration.Written`), and what is
read is `Measure.reading` of the number (`exists_written`, `ofString?_of_written`). That is the number of the unit but for minutes, whose
seconds are taken modulo `2 ^ 64` (`millis_reading_iff`). The text of a duration is read back if its milliseconds have 64
bits (`ofString?_text`).
-/

namespace MockApi.Duration

open Text

/-- The units of a duration. A number without any is one of seconds. -/
inductive Measure
  | milliseconds
  | seconds
  | minutes
  | unmarked
deriving DecidableEq

namespace Measure

def mark : Measure → List Char
  | milliseconds => ['m', 's']
  | seconds => ['s']
  | minutes => ['m']
  | unmarked => []

def millis : Measure → Nat
  | milliseconds => 1
  | seconds | unmarked => 1000
  | minutes => 60000

/-- The duration that a number of the unit is taken for. -/
def reading (measure : Measure) (n : Nat) : Duration :=
  match measure with
  | milliseconds => ⟨n⟩
  | seconds | unmarked => ofSeconds n
  | minutes => ofSeconds (n * 60 % numberLimit)

end Measure

/-- The text is the number with the unit behind it, and there may be blanks around the number and behind the unit. -/
def Written (s : String) (n : Nat) (measure : Measure) : Prop :=
  ∃ before plus noughts gap behind, (∀ c ∈ before ++ gap ++ behind, isBlank c) ∧
    s.toList = before ++ (numeral plus noughts n ++ gap ++ measure.mark) ++ behind

variable {s : String} {n : Nat} {measure : Measure} {d : Duration} {gap digits : List Char} {plus : Bool} {noughts : Nat}

/-! ### The number -/

theorem number?_numeral (blank : ∀ c ∈ gap, isBlank c) :
    number? (numeral plus noughts n ++ gap) = if n < numberLimit then some n else none := by
  have trimmed : trimChars ([] ++ numeral plus noughts n ++ gap) = numeral plus noughts n :=
    trimChars_around blank (fun _ first => isBlank_of_mem_numeral (List.mem_of_mem_head? first))
      (fun _ last => isBlank_of_mem_numeral (List.mem_of_getLast? last))
  rw [number?, ← List.nil_append (numeral plus noughts n), trimmed, readNat?_numeral]

theorem exists_numeral (read : number? digits = some n) : n < numberLimit ∧ ∃ before plus noughts gap,
    (∀ c ∈ before ++ gap, isBlank c) ∧ digits = before ++ numeral plus noughts n ++ gap := by
  obtain ⟨small, plus, noughts, trimmed⟩ := readNat?_eq_some_iff.mp read
  obtain ⟨before, gap, blank, whole⟩ := exists_blanks digits
  rw [trimmed] at whole
  exact ⟨small, before, plus, noughts, gap, blank, whole⟩

/-! ### The unit -/

/-- What stands in front of a unit does not end in a letter of another one. -/
def Unlettered (body : List Char) : Prop := ∀ letter ∈ ['m', 's'], ∀ rest, body ≠ rest ++ [letter]

theorem unlettered_numeral (blank : ∀ c ∈ gap, isBlank c) : Unlettered (numeral plus noughts n ++ gap) := by
  intro letter unit rest same
  have last : (numeral plus noughts n ++ gap).getLast? = some letter := by
    rw [same]
    exact List.getLast?_concat
  have plain : letter.isDigit ∨ isBlank letter := by
    rw [List.getLast?_append, Option.or_eq_some_iff] at last
    rcases last with last | ⟨-, last⟩
    · exact .inr (blank letter (List.mem_of_getLast? last))
    · exact .inl (isDigit_of_mem_getLast?_numeral last)
  have letters : ['m', 's'].all (fun c => !(c.isDigit || isBlank c)) = true := by decide
  have neither := List.all_eq_true.mp letters letter unit
  rcases plain with digit | blank
  · simp [digit] at neither
  · simp [blank] at neither

theorem dropFinish_eq_none {finish chars : List Char} (other : ∀ rest, chars ≠ rest ++ finish) :
    dropFinish finish chars = none := by
  rw [Option.eq_none_iff_forall_ne_some]
  intro rest dropped
  exact other rest (dropFinish_eq_some.mp dropped)

/-- The unit is told by the end of the text. -/
theorem ofString?_of_mark {body : List Char} (plain : Unlettered body)
    (trimmed : trimChars s.toList = body ++ measure.mark) :
    ofString? s = (if measure = .unmarked then readNat? numberLimit body else number? body).map measure.reading := by
  have own : dropFinish measure.mark (body ++ measure.mark) = some body := dropFinish_eq_some.mpr rfl
  have apart (rest : List Char) : rest ++ ['m', 's'] = rest ++ ['m'] ++ ['s'] := (List.append_assoc rest ['m'] ['s']).symm
  cases measure with
  | milliseconds =>
    rw [Measure.mark] at trimmed own
    simp only [ofString?, trimmed, own]
    rfl
  | seconds =>
    rw [Measure.mark] at trimmed own
    have longer : dropFinish ['m', 's'] (body ++ ['s']) = none := dropFinish_eq_none fun rest same => by
      rw [apart] at same
      exact plain 'm' (by decide) rest (List.append_cancel_right same)
    simp only [ofString?, trimmed, longer, own]
    rfl
  | minutes =>
    rw [Measure.mark] at trimmed own
    have longer : dropFinish ['m', 's'] (body ++ ['m']) = none := dropFinish_eq_none fun rest same => by
      rw [apart] at same
      exact absurd (List.append_inj_right' same rfl) (by decide)
    have other : dropFinish ['s'] (body ++ ['m']) = none := dropFinish_eq_none fun rest same => by
      exact absurd (List.append_inj_right' same rfl) (by decide)
    simp only [ofString?, trimmed, longer, other, own]
    rfl
  | unmarked =>
    rw [Measure.mark, List.append_nil] at trimmed
    have longer : dropFinish ['m', 's'] body = none := dropFinish_eq_none fun rest same => by
      rw [apart] at same
      exact plain 's' (by decide) _ same
    have seconds : dropFinish ['s'] body = none := dropFinish_eq_none (plain 's' (by decide))
    have minutes : dropFinish ['m'] body = none := dropFinish_eq_none (plain 'm' (by decide))
    simp only [ofString?, trimmed, longer, seconds, minutes]
    rfl

theorem Written.trimmed (written : Written s n measure) : ∃ plus noughts gap, (∀ c ∈ gap, isBlank c) ∧
    (measure = .unmarked → gap = []) ∧ trimChars s.toList = numeral plus noughts n ++ gap ++ measure.mark := by
  obtain ⟨before, plus, noughts, gap, behind, blank, whole⟩ := written
  obtain ⟨front, behindBlank⟩ := List.forall_mem_append.mp blank
  obtain ⟨beforeBlank, gapBlank⟩ := List.forall_mem_append.mp front
  have first (rest : List Char) : ∀ c ∈ (numeral plus noughts n ++ rest).head?, isBlank c = false := by
    intro c first
    have inhabited : numeral plus noughts n ≠ [] := numeral_ne_nil
    obtain ⟨sign, behind, same⟩ := List.exists_cons_of_ne_nil inhabited
    rw [same] at first
    cases first
    exact isBlank_of_mem_numeral (same ▸ List.mem_cons_self)
  by_cases marked : measure = .unmarked
  · subst marked
    refine ⟨plus, noughts, [], nofun, fun _ => rfl, ?_⟩
    have around : ∀ c ∈ before ++ (gap ++ behind), isBlank c :=
      List.forall_mem_append.mpr ⟨beforeBlank, List.forall_mem_append.mpr ⟨gapBlank, behindBlank⟩⟩
    have same : s.toList = before ++ numeral plus noughts n ++ (gap ++ behind) := by
      simp [whole, Measure.mark]
    rw [same, trimChars_around around]
    · simp [Measure.mark]
    · simpa using first []
    · exact fun _ last => isBlank_of_mem_numeral (List.mem_of_getLast? last)
  · refine ⟨plus, noughts, gap, gapBlank, fun unmarked => absurd unmarked marked, ?_⟩
    rw [whole, trimChars_around (List.forall_mem_append.mpr ⟨beforeBlank, behindBlank⟩)]
    · rw [List.append_assoc]
      exact first _
    · intro c last
      rw [List.getLast?_append] at last
      cases measure with
      | unmarked => exact absurd rfl marked
      | milliseconds | seconds | minutes =>
        cases last
        decide

/-- What a number with a unit is read as, and when it is refused. -/
theorem ofString?_of_written (written : Written s n measure) :
    ofString? s = if n < numberLimit then some (measure.reading n) else none := by
  obtain ⟨plus, noughts, gap, blank, unmarked, trimmed⟩ := written.trimmed
  have number : (if measure = .unmarked then readNat? numberLimit (numeral plus noughts n ++ gap)
      else number? (numeral plus noughts n ++ gap)) = if n < numberLimit then some n else none := by
    split
    · rename_i alone
      rw [unmarked alone, List.append_nil, readNat?_numeral]
    · exact number?_numeral blank
  rw [ofString?_of_mark (unlettered_numeral blank) trimmed, number]
  split <;> rfl

/-- Only a number with a unit is read. -/
theorem exists_written (read : ofString? s = some d) : ∃ n measure, Written s n measure ∧ n < numberLimit := by
  obtain ⟨before, behind, blank, whole⟩ := exists_blanks s.toList
  obtain ⟨beforeBlank, behindBlank⟩ := List.forall_mem_append.mp blank
  have marked (measure : Measure) {body : List Char} (trimmed : trimChars s.toList = body ++ measure.mark)
      (number : number? body ≠ none) : ∃ n measure, Written s n measure ∧ n < numberLimit := by
    obtain ⟨n, number⟩ := Option.ne_none_iff_exists'.mp number
    obtain ⟨small, front, plus, noughts, gap, inner, rfl⟩ := exists_numeral number
    obtain ⟨frontBlank, gapBlank⟩ := List.forall_mem_append.mp inner
    refine ⟨n, measure, ⟨before ++ front, plus, noughts, gap, behind, ?_, ?_⟩, small⟩
    · simp only [List.forall_mem_append]
      exact ⟨⟨⟨beforeBlank, frontBlank⟩, gapBlank⟩, behindBlank⟩
    · rw [whole, trimmed]
      simp only [List.append_assoc]
  have some_of {f : Nat → Duration} {number : Option Nat} (made : number.map f = some d) : number ≠ none := by
    rintro rfl
    cases made
  simp only [ofString?] at read
  split at read
  · rename_i dropped
    exact marked .milliseconds (dropFinish_eq_some.mp dropped) (some_of read)
  · split at read
    · rename_i dropped
      exact marked .seconds (dropFinish_eq_some.mp dropped) (some_of read)
    · split at read
      · rename_i dropped
        exact marked .minutes (dropFinish_eq_some.mp dropped) (some_of read)
      · obtain ⟨n, number⟩ := Option.ne_none_iff_exists'.mp (some_of read)
        obtain ⟨small, plus, noughts, trimmed⟩ := readNat?_eq_some_iff.mp number
        refine ⟨n, .unmarked, ⟨before, plus, noughts, [], behind, ?_, ?_⟩, small⟩
        · rwa [List.append_nil]
        · rw [whole, trimmed]
          simp [Measure.mark]

/-- Only the seconds of too many minutes are not those that are written. -/
theorem millis_reading_iff :
    (measure.reading n).millis = n * measure.millis ↔ (measure = .minutes → n * 60 < numberLimit) := by
  cases measure with
  | minutes =>
    have wrapped : n * 60 % numberLimit = n * 60 ↔ n * 60 < numberLimit := Nat.mod_eq_iff_lt (by decide)
    have whole : n * Measure.minutes.millis = 1000 * (n * 60) := by
      rw [Measure.millis]
      omega
    have made : (Measure.minutes.reading n).millis = 1000 * (n * 60 % numberLimit) := rfl
    rw [made, whole, Nat.mul_right_inj (by decide), wrapped]
    exact ⟨fun small _ => small, fun small => small rfl⟩
  | milliseconds => exact iff_of_true (Nat.mul_one n).symm nofun
  | seconds | unmarked => exact iff_of_true (Nat.mul_comm 1000 n) nofun

/-! ### Showing -/

theorem written_text (d : Duration) : Written d.text d.millis .milliseconds := by
  refine ⟨[], false, 0, [], [], nofun, ?_⟩
  rw [text, String.toList_append]
  simp [numeral, Measure.mark]

/-- A duration is shown as a text that is read as the same duration, or refused if it has too many milliseconds. -/
theorem ofString?_text (d : Duration) : ofString? d.text = if d.millis < numberLimit then some d else none :=
  ofString?_of_written (written_text d)

end MockApi.Duration
