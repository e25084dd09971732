import MockApi.Generation.Vocabulary
import MockApi.Proofs.Generation.Keeping
import MockApi.Proofs.Text.Parts
import MockApi.Random.Script
import MockApi.Validation.Format

/-!
# Texts of a length

A text is as long as its node says, whichever way it is made: as a text of the format that happens to fit, built to
size, or as filler text (`stringDraw_length`). What is built to size has the form of its format: a mail address has
something before its at sign and a host behind it, and a host has two labels (`sizedFormatText_missed`). The only
texts that are not made are those that are too long to be held.
-/

namespace MockApi

/-! ### Draws -/

namespace Draw

variable {σ : Type} [Source σ]

theorem belowEven32_gives {n : Nat} (positive : 0 < n) : (belowEven32 n : Draw σ Nat).Gives (· < n) := by
  have cells : (spread32 n : Draw σ (Nat × Nat)).Gives (·.1 < n) :=
    fun s => spread_lt (word32 s).1.toNat_lt positive
  refine Gives.bind (P := (·.1 < n)) (fun s => ?_) fun cell below => gives_pure below
  exact retry_holds (P := fun cell : Nat × Nat => cell.1 < n) cells redraws s

theorem letter_gives : (letter : Draw σ Char).Gives (·.isLower = true) := by
  have small : ∀ n < 26, (Char.ofNat (97 + n)).isLower = true := by decide
  exact (gives_any _).bind fun _ _ => (belowEven32_gives (by decide)).bind fun n below =>
    gives_pure (small n below)

theorem minus_gives (whole part : Nat) : (minus whole part : Draw σ Nat).Gives (· = whole - part) :=
  (gives_any _).bind fun _ _ => gives_pure rfl

end Draw

namespace Generation

open Schema Validation

variable {σ : Type} [Source σ]

/-! ### Hosts and mail addresses -/

/-- Small letters, at least one. -/
def IsLabel (s : List Char) : Prop := s ≠ [] ∧ ∀ c ∈ s, c.isLower = true

/-- Two labels with a point between them. -/
def IsHost (s : List Char) : Prop := ∃ name suffix, s = name ++ '.' :: suffix ∧ IsLabel name ∧ IsLabel suffix

/-- A label, an at sign and a host. -/
def IsMail (s : List Char) : Prop := ∃ part host, s = part ++ '@' :: host ∧ IsLabel part ∧ IsHost host

theorem IsLabel.not_mem {s : List Char} (label : IsLabel s) {c : Char} (other : c.isLower = false) : c ∉ s := by
  intro mem
  rw [label.2 c mem] at other
  cases other

/-- An address of this form passes the check of mail addresses. -/
theorem isEmail_of_isMail {text : String} (mail : IsMail text.toList) : isEmail text = true := by
  obtain ⟨part, host, same, label, name, suffix, rfl, first, -⟩ := mail
  obtain ⟨c, rest, rfl⟩ := List.exists_cons_of_ne_nil first.1
  have point : c ≠ '.' := by
    rintro rfl
    exact first.not_mem rfl List.mem_cons_self
  rw [isEmail, same, Text.splitOnce_append (label.not_mem rfl)]
  simp [label.1, point]

theorem label_gives (length : Nat) :
    (label length : Draw σ String).Gives fun text => text.length = length ∧
      (0 < length → IsLabel text.toList) := by
  refine (Draw.times_gives Draw.letter_gives length).bind ?_
  rintro letters ⟨same, small⟩
  refine Draw.gives_pure ⟨String.length_ofList.trans same, fun positive => ?_⟩
  rw [String.toList_ofList]
  exact ⟨List.ne_nil_of_length_pos (same ▸ positive), small⟩

theorem builtHost_gives {length : Nat} (long : 3 ≤ length) :
    (builtHost length : Draw σ String).Gives fun text => text.length = length ∧ IsHost text.toList := by
  refine (Draw.minus_gives _ _).bind fun rest same => (Draw.minus_gives _ _).bind fun first less => ?_
  subst same less
  refine (label_gives _).bind fun name ⟨nameLength, isName⟩ => ?_
  refine (label_gives _).bind fun suffix ⟨suffixLength, isSuffix⟩ => Draw.gives_pure ?_
  -- the suffix and the point leave room for the name
  have room : 0 < (if 6 ≤ length then 3 else 1) ∧ (if 6 ≤ length then 3 else 1) + 1 < length := by
    split <;> omega
  refine ⟨?_, name.toList, suffix.toList, ?_, isName (by omega), isSuffix room.1⟩
  · rw [String.length_append, String.length_append, nameLength, suffixLength]
    show _ + 1 + _ = _
    omega
  · simp

theorem builtMail_gives {length : Nat} (long : 5 ≤ length) :
    (builtMail length : Draw σ String).Gives fun text => text.length = length ∧ IsMail text.toList := by
  refine (Draw.minus_gives _ _).bind fun rest same => (Draw.minus_gives _ _).bind fun first less => ?_
  subst same less
  have host : 3 ≤ Nat.max ((length - 1) / 2) 3 := Nat.le_max_right _ _
  have room : Nat.max ((length - 1) / 2) 3 + 1 < length := by
    have most : Nat.max ((length - 1) / 2) 3 ≤ length - 2 := Nat.max_le.mpr ⟨by omega, by omega⟩
    omega
  refine (label_gives _).bind fun part ⟨partLength, isPart⟩ => ?_
  refine (builtHost_gives host).bind fun host ⟨hostLength, isHost⟩ => Draw.gives_pure ?_
  refine ⟨?_, part.toList, host.toList, ?_, isPart (by omega), isHost⟩
  · rw [String.length_append, String.length_append, partLength, hostLength]
    show _ + 1 + _ = _
    omega
  · simp

theorem passwordText_gives (length : Nat) :
    (passwordText length : Draw σ String).Gives (·.length = length) :=
  (Draw.times_gives (Draw.gives_any Draw.alphanumeric) length).bind fun _ ⟨same, _⟩ =>
    Draw.gives_pure (String.length_ofList.trans same)

/-! ### Forms that can be built -/

inductive Form
  | mail
  | host
  | password

namespace Form

/-- The form of a format that can be built to size. The name may be written in any case. -/
def ofName? (format : String) : Option Form :=
  match Text.lowerAscii format with
  | "email" | "idn-email" => some .mail
  | "hostname" | "idn-hostname" => some .host
  | "password" => some .password
  | _ => none

/-- The least length. -/
def floor : Form → Nat
  | mail => 5
  | host => 3
  | password => 0

def build : Form → Nat → Draw σ String
  | mail => builtMail
  | host => builtHost
  | password => passwordText

/-- What a text of the form is like. -/
def Describes : Form → String → Prop
  | mail, text => IsMail text.toList ∧ isEmail text = true
  | host, text => IsHost text.toList
  | password, _ => True

theorem builder?_eq (format : String) :
    (builder? format : Option (Nat × (Nat → Draw σ String))) =
      (ofName? format).map fun form => (form.floor, form.build) := by
  unfold builder? ofName?
  split <;> simp [floor, build, *]

theorem build_gives (form : Form) {length : Nat} (long : form.floor ≤ length) :
    (form.build length : Draw σ String).Gives fun text => text.length = length ∧ form.Describes text := by
  cases form with
  | mail =>
    exact (builtMail_gives long).mono fun text ⟨same, isMail⟩ => ⟨same, isMail, isEmail_of_isMail isMail⟩
  | host => exact builtHost_gives long
  | password => exact (passwordText_gives length).mono fun text same => ⟨same, trivial⟩

end Form

/-! ### Texts of a format -/

omit [Source σ] in
theorem drawFitting_gives (min max : Nat) (draw : Draw σ String) (fuel : Nat) :
    (drawFitting min max draw fuel).Gives
      (∀ text, · = some text → min ≤ text.length ∧ text.length ≤ max) := by
  induction fuel with
  | zero => exact Draw.gives_pure nofun
  | succ fuel ih =>
    refine (Draw.gives_any draw).bind fun text _ => ?_
    split
    · rename_i fits
      refine Draw.gives_pure ?_
      rintro _ ⟨⟩
      exact fits
    · exact ih

theorem builtLength_gives {floor min max : Nat} (ordered : min ≤ max) :
    (builtLength floor min max : Draw σ (Option Nat)).Gives fun
      | none => max < floor
      | some length => floor ≤ max ∧ floor ≤ length ∧ min ≤ length ∧ length ≤ max ∧
          length ≤ Nat.max min floor + builtSlack := by
  unfold builtLength
  dsimp only
  have least : min ≤ Nat.max min floor ∧ floor ≤ Nat.max min floor :=
    ⟨Nat.le_max_left _ _, Nat.le_max_right _ _⟩
  have most : Nat.min max (Nat.max min floor + builtSlack) ≤ max ∧
      Nat.min max (Nat.max min floor + builtSlack) ≤ Nat.max min floor + builtSlack :=
    ⟨Nat.min_le_left _ _, Nat.min_le_right _ _⟩
  split
  · rename_i empty
    refine Draw.gives_pure ?_
    by_contra fits
    have inhabited : Nat.max min floor ≤ Nat.min max (Nat.max min floor + builtSlack) :=
      Nat.le_min_of_le_of_le (Nat.max_le.mpr ⟨ordered, Nat.not_lt.mp fits⟩) (Nat.le_add_right _ _)
    omega
  · rename_i inhabited
    refine (Draw.natBetween_gives (Nat.not_lt.mp inhabited)).bind fun length within => Draw.gives_pure ?_
    dsimp only
    omega

/-- The text where no draw of the format fits. -/
def builtText (format : String) (min max : Nat) : Generate σ (Option String) :=
  match builder? format with
  | none => return none
  | some (floor, build) => do
    match ← drawn (builtLength floor min max) with
    | none => return none
    | some length =>
      holdBelow textCapacity length
      return some (← drawn (build length))

theorem sizedFormatText_eq {samples : Samples σ} {now : Instant} {format : String} {draw : Draw σ String}
    (known : formatText samples now format = some draw) (min max : Nat) :
    sizedFormatText samples now format min max = (do
      match ← drawn (drawFitting min max draw formatAttempts) with
      | some text => return some text
      | none => builtText format min max) := by
  unfold sizedFormatText
  split
  · rename_i unknown
    cases known.symm.trans unknown
  · rename_i same
    cases known.symm.trans same
    rfl

/-- What is built where `min` to `max` characters are asked for. -/
def Form.Answers (form : Form) (min max : Nat) (answer : Option String) : Prop :=
  if max < form.floor then answer = none
  else ∃ text, answer = some text ∧ min ≤ text.length ∧ text.length ≤ max ∧ form.Describes text

omit [Source σ] in
theorem keeps_drawn_gives {α : Type} {draw : Draw σ α} {F : Fault → Prop} {P : α → Prop} (gives : draw.Gives P) :
    Keeps (fun _ => True) F (drawn draw) P :=
  fun s _ => ⟨gives s, trivial⟩

omit [Source σ] in
theorem holdBelow_ends {limit length : Nat} {F : Fault → Prop}
    (faulty : limit ≤ length → F (.unholdableText length)) :
    Keeps (fun _ : σ => True) F (holdBelow limit length) := by
  unfold holdBelow
  split
  · rename_i long
    exact keeps_throw (faulty long)
  · exact keeps_pure trivial

theorem builtText_ends {format : String} {form : Form} (known : Form.ofName? format = some form)
    {min max : Nat} (ordered : min ≤ max) :
    Keeps (fun _ : σ => True) (fun _ => unholdableLength ≤ min) (builtText format min max)
      (form.Answers min max) := by
  unfold builtText
  rw [Form.builder?_eq, known]
  refine (keeps_drawn_gives (builtLength_gives ordered)).bind fun length within => ?_
  cases length with
  | none =>
    have below : max < form.floor := within
    refine keeps_pure ?_
    rw [Form.Answers, if_pos below]
  | some length =>
    obtain ⟨room, long, least, most, slack⟩ := within
    refine (holdBelow_ends fun unheld => ?_).bind fun _ _ => ?_
    · by_contra short
      have floor_short : form.floor < unholdableLength := by cases form <;> decide
      have least_short : Nat.max min form.floor < unholdableLength :=
        Nat.max_lt.mpr ⟨Nat.not_le.mp short, floor_short⟩
      unfold unholdableLength at least_short
      unfold builtSlack at slack
      unfold textCapacity at unheld
      omega
    · refine (keeps_drawn_gives (form.build_gives long)).bind fun text ⟨same, described⟩ => keeps_pure ?_
      rw [Form.Answers, if_neg (Nat.not_lt.mpr room)]
      exact ⟨text, rfl, same ▸ least, same ▸ most, described⟩

theorem builtText_of_formless {format : String} (formless : Form.ofName? format = none) (min max : Nat) :
    (builtText format min max : Generate σ (Option String)) = pure none := by
  unfold builtText
  rw [Form.builder?_eq, formless]
  rfl

/-- What cannot be held is not built. -/
theorem builtText_unheld {format : String} {form : Form} (known : Form.ofName? format = some form)
    {min max : Nat} (ordered : min ≤ max) (unheld : textCapacity ≤ min) :
    Makes (builtText format min max : Generate σ (Option String)) fun _ => False := by
  unfold builtText
  rw [Form.builder?_eq, known]
  refine (keeps_drawn_gives (builtLength_gives ordered)).bind fun length within => ?_
  cases length with
  | none =>
    have below : max < form.floor := within
    have small : form.floor < textCapacity := by cases form <;> decide
    omega
  | some length =>
    obtain ⟨-, -, least, -⟩ := within
    dsimp only
    rw [holdBelow, if_pos (Nat.le_trans unheld least)]
    exact (makes_throw _ : Makes (throw _) fun _ => False).bind fun _ => nofun

/-- A format without a draw has no form. -/
theorem formless_of_unknown {samples : Samples σ} {now : Instant} {format : String}
    (unknown : formatText samples now format = none) : Form.ofName? format = none := by
  unfold formatText at unknown
  unfold Form.ofName?
  split at unknown <;> simp_all

/-- Where no draw of a format fits, its text is built. -/
theorem sizedFormatText_of_missed {samples : Samples σ} {now : Instant} {format : String} {min max : Nat}
    {source : σ} (missed : ∀ draw, formatText samples now format = some draw →
      (drawFitting min max draw formatAttempts source).1 = none) :
    ∃ after : σ, (sizedFormatText samples now format min max source).1 = (builtText format min max after).1 := by
  cases known : formatText samples now format with
  | none =>
    refine ⟨source, ?_⟩
    rw [builtText_of_formless (formless_of_unknown known), sizedFormatText, known]
  | some draw =>
    have run : drawn (drawFitting min max draw formatAttempts) source =
        (.ok none, (drawFitting min max draw formatAttempts source).2) :=
      congrArg (Prod.mk · _) (congrArg Except.ok (missed draw known))
    exact ⟨_, by rw [sizedFormatText_eq known, bind_of_ok run]⟩

/-- For every state of the source in which no draw of the format fits: a format without a form has no text, and one
with a form has none exactly where its least length is too long. Every other answer is a text of the form that is
as long as is asked for. There is an answer unless so long a text is asked for that it cannot be held. -/
theorem sizedFormatText_missed (samples : Samples σ) (now : Instant) (format : String) {min max : Nat}
    (ordered : min ≤ max) (source : σ)
    (missed : ∀ draw, formatText samples now format = some draw →
      (drawFitting min max draw formatAttempts source).1 = none) :
    (Form.ofName? format = none → (sizedFormatText samples now format min max source).1 = .ok none) ∧
    ∀ form, Form.ofName? format = some form →
      (∀ answer, (sizedFormatText samples now format min max source).1 = .ok answer →
        (answer = none ↔ max < form.floor) ∧
        ∀ text, answer = some text → min ≤ text.length ∧ text.length ≤ max ∧ form.Describes text) ∧
      (min < unholdableLength → ∃ answer, (sizedFormatText samples now format min max source).1 = .ok answer) := by
  obtain ⟨after, same⟩ := sizedFormatText_of_missed missed
  rw [same]
  refine ⟨fun formless => by rw [builtText_of_formless formless]; rfl, fun form known => ?_⟩
  have ends := (builtText_ends known ordered after trivial).1
  refine ⟨fun answer made => ?_, fun short => ends.exists_ok fun _ => Nat.not_le.mpr short⟩
  have answers := ends.of_ok made
  unfold Form.Answers at answers
  split at answers
  · rename_i below
    subst answers
    exact ⟨⟨fun _ => below, fun _ => rfl⟩, nofun⟩
  · rename_i room
    obtain ⟨text, rfl, fits⟩ := answers
    refine ⟨⟨nofun, fun below => absurd below room⟩, ?_⟩
    rintro _ ⟨⟩
    exact fits

omit [Source σ] in
theorem drawFitting_eq_none {draw : Draw σ String} {min max : Nat}
    (outside : draw.Gives fun text => text.length < min ∨ max < text.length) (fuel : Nat) (source : σ) :
    (drawFitting min max draw fuel source).1 = none := by
  induction fuel generalizing source with
  | zero => rfl
  | succ fuel ih =>
    have missed : ¬(min ≤ (draw source).1.length ∧ (draw source).1.length ≤ max) := by
      have := outside source
      omega
    show ((if min ≤ (draw source).1.length ∧ (draw source).1.length ≤ max then
      (pure (some (draw source).1) : Draw σ _) else drawFitting min max draw fuel) (draw source).2).1 = none
    rw [if_neg missed]
    exact ih _

/-- A draw outside the bounds never fits. -/
theorem missed_of_outside (min max : Nat) {samples : Samples σ} {now : Instant} {format : String}
    {draw : Draw σ String} (known : formatText samples now format = some draw)
    (outside : draw.Gives fun text => text.length < min ∨ max < text.length) (source : σ) :
    ∀ draw, formatText samples now format = some draw →
      (drawFitting min max draw formatAttempts source).1 = none := by
  intro _ same
  rw [← Option.some.inj (known.symm.trans same)]
  exact drawFitting_eq_none outside _ _

/-- A sample address has a name, and one of the domains for examples. -/
theorem sampleMail_gives : (Samples.ofVocabulary.mail : Draw σ String).Gives (9 ≤ ·.length) := by
  refine (Draw.gives_any _).bind fun name _ => (Draw.gives_any _).bind fun suffix _ => Draw.gives_pure ?_
  rw [String.length_append, String.length_append]
  show 9 ≤ _ + 9 + _
  omega

/-- No sample address has five or six characters, but one is built. -/
theorem sizedFormatText_missed_shortMail :
    let source : Script := ⟨[], 0, 0⟩
    (∀ draw, formatText Samples.ofVocabulary ⟨0⟩ "Email" = some draw →
      (drawFitting 5 6 draw formatAttempts source).1 = none) ∧
    ∃ text, (sizedFormatText Samples.ofVocabulary ⟨0⟩ "Email" 5 6 source).1 = .ok (some text) ∧
      5 ≤ text.length ∧ text.length ≤ 6 ∧ IsMail text.toList ∧ isEmail text = true := by
  intro source
  have drawOf (samples : Samples Script) : formatText samples ⟨0⟩ "Email" = some samples.mail := rfl
  have missed := missed_of_outside 5 6 (drawOf Samples.ofVocabulary)
    (sampleMail_gives.mono fun _ long => .inr (Nat.lt_of_lt_of_le (by decide) long)) source
  have built := (sizedFormatText_missed Samples.ofVocabulary ⟨0⟩ "Email" (by decide) source missed).2 .mail rfl
  obtain ⟨answer, made⟩ := built.2 (by decide)
  obtain ⟨none_iff, fits⟩ := built.1 answer made
  cases answer with
  | none => exact absurd (none_iff.mp rfl) (by decide)
  | some text => exact ⟨missed, text, made, fits text rfl⟩

/-- The format of international mail addresses is built to size as well, and a password of so many characters
cannot be held. -/
theorem sizedFormatText_beyond :
    let source : Script := ⟨[], 0, 0⟩
    ((∀ draw, formatText Samples.ofVocabulary ⟨0⟩ "idn-email" = some draw →
        (drawFitting 5 6 draw formatAttempts source).1 = none) ∧
      ∃ text, (sizedFormatText Samples.ofVocabulary ⟨0⟩ "idn-email" 5 6 source).1 = .ok (some text)) ∧
    (∀ draw, formatText Samples.ofVocabulary ⟨0⟩ "password" = some draw →
        (drawFitting (2 ^ 63) (2 ^ 63) draw formatAttempts source).1 = none) ∧
      ∀ answer, (sizedFormatText Samples.ofVocabulary ⟨0⟩ "password" (2 ^ 63) (2 ^ 63) source).1 ≠ .ok answer := by
  intro source
  have mailOf (samples : Samples Script) : formatText samples ⟨0⟩ "idn-email" = some samples.mail := rfl
  have passwordOf (samples : Samples Script) : formatText samples ⟨0⟩ "password" = some (passwordText 12) := rfl
  have missed := missed_of_outside 5 6 (mailOf Samples.ofVocabulary)
    (sampleMail_gives.mono fun _ long => .inr (Nat.lt_of_lt_of_le (by decide) long)) source
  have short := missed_of_outside (2 ^ 63) (2 ^ 63) (passwordOf Samples.ofVocabulary)
    ((passwordText_gives 12).mono fun _ same => .inl (Nat.lt_of_le_of_lt (Nat.le_of_eq same) (by decide))) source
  refine ⟨⟨missed, ?_⟩, short, ?_⟩
  · have mailForm : Form.ofName? "idn-email" = some .mail := rfl
    obtain ⟨after, same⟩ := sizedFormatText_of_missed missed
    have ends := (builtText_ends mailForm (by decide : 5 ≤ 6) after trivial).1
    obtain ⟨answer, made⟩ := ends.exists_ok fun _ => by decide
    obtain ⟨text, rfl, -⟩ := show Form.Answers .mail 5 6 answer from ends.of_ok made
    exact ⟨text, same.trans made⟩
  · have passwordForm : Form.ofName? "password" = some .password := rfl
    obtain ⟨after, same⟩ := sizedFormatText_of_missed short
    have never := (builtText_unheld passwordForm (Nat.le_refl (2 ^ 63)) (by decide) after trivial).1
    exact fun answer made => never.of_ok (same.symm.trans made)

/-! ### Texts of a node -/

/-- The draws of a format fit, and so does what is built, unless it is too long to be held. -/
theorem sizedFormatText_ends (samples : Samples σ) (now : Instant) (format : String) {min max : Nat}
    (ordered : min ≤ max) :
    Keeps (fun _ : σ => True) (fun _ => unholdableLength ≤ min) (sizedFormatText samples now format min max)
      (∀ text, · = some text → min ≤ text.length ∧ text.length ≤ max) := by
  cases known : formatText samples now format with
  | none =>
    unfold sizedFormatText
    rw [known]
    exact keeps_pure nofun
  | some draw =>
    rw [sizedFormatText_eq known]
    refine (keeps_drawn_gives (drawFitting_gives min max draw formatAttempts)).bind fun fitting fits => ?_
    cases fitting with
    | some text => exact keeps_pure fits
    | none =>
      dsimp only
      cases form : Form.ofName? format with
      | none =>
        rw [builtText_of_formless form]
        exact keeps_pure nofun
      | some form' =>
        refine (builtText_ends form ordered).mono fun answer answers text same => ?_
        subst same
        unfold Form.Answers at answers
        split at answers
        · cases answers
        · obtain ⟨_, ⟨⟩, least, most, -⟩ := answers
          exact ⟨least, most⟩

/-- A length that the keywords of a node admit. -/
def Admitted (k : Keywords) (length : Nat) : Prop :=
  k.minLength.getD 0 ≤ length ∧ ∀ max, k.maxLength = some max → length ≤ max

/-- The bounds of a node are in order. -/
def LengthsOrdered (k : Keywords) : Prop :=
  ∀ min max, k.minLength = some min → k.maxLength = some max → min ≤ max

variable {k : Keywords} {length : Nat}

theorem admitted_of_stated (ordered : LengthsOrdered k) (least : (statedLength k).1 ≤ length)
    (most : length ≤ (statedLength k).2) : Admitted k length := by
  refine ⟨least, fun max stated => Nat.le_trans most (Nat.max_le.mpr ⟨?_, ?_⟩)⟩
  · rw [stated]
    exact Nat.le_refl max
  · cases least_stated : k.minLength with
    | none => exact Nat.zero_le max
    | some min => exact ordered min max least_stated stated

/-- The filler text of a node is not much longer than it has to be. -/
theorem admitted_of_bounds (ordered : LengthsOrdered k) (least : (lengthBounds k).1 ≤ length)
    (most : length ≤ (lengthBounds k).2) :
    Admitted k length ∧ length ≤ Nat.max (k.minLength.getD 0) textLimit ∧
      (k.maxLength = none → length ≤ Nat.max (k.minLength.getD 0) defaultMaxLength) := by
  unfold lengthBounds at least most
  have bounded {limit : Nat} (enough : k.minLength.getD 0 ≤ limit)
      (less : Nat.min (k.maxLength.getD (Nat.max (k.minLength.getD 0) defaultMaxLength))
        (Nat.max (k.minLength.getD 0) textLimit) ≤ limit) : length ≤ limit :=
    Nat.le_trans most (Nat.max_le.mpr ⟨less, enough⟩)
  refine ⟨⟨least, fun max stated => bounded ?_ ?_⟩, ?_, fun unstated => ?_⟩
  · cases least_stated : k.minLength with
    | none => exact Nat.zero_le max
    | some min => exact ordered min max least_stated stated
  · rw [stated]
    exact Nat.min_le_left _ _
  · exact bounded (Nat.le_max_left _ _) (Nat.min_le_right _ _)
  · refine bounded (Nat.le_max_left _ _) ?_
    rw [unstated]
    exact Nat.min_le_left _ _

theorem formatDraw_ends (setting : Setting σ) (ordered : LengthsOrdered k) :
    Keeps (fun _ : σ => True) (fun _ => unholdableLength ≤ k.minLength.getD 0) (formatDraw setting k)
      (∀ text, · = some text → k.format ≠ none ∧ Admitted k text.length) := by
  unfold formatDraw
  dsimp only
  cases k.format with
  | none => exact keeps_pure nofun
  | some format =>
    have inOrder : (statedLength k).1 ≤ (statedLength k).2 := Nat.le_max_right _ _
    refine (sizedFormatText_ends setting.samples setting.now format inOrder).mono fun answer fits text same => ?_
    obtain ⟨least, most⟩ := fits text same
    exact ⟨nofun, admitted_of_stated ordered least most⟩

theorem fillerDraw_ends (ordered : LengthsOrdered k) :
    Keeps (fun _ : σ => True) (fun _ => unholdableLength ≤ k.minLength.getD 0) (fillerDraw k)
      fun text => Admitted k text.length ∧ text.length ≤ Nat.max (k.minLength.getD 0) textLimit ∧
        (k.maxLength = none → text.length ≤ Nat.max (k.minLength.getD 0) defaultMaxLength) := by
  have inOrder : (lengthBounds k).1 ≤ (lengthBounds k).2 := Nat.le_max_right _ _
  refine (keeps_drawn_gives (Draw.natBetween_gives inOrder)).bind fun length ⟨least, most⟩ => ?_
  have fits := admitted_of_bounds ordered least most
  refine (holdBelow_ends fun unheld => ?_).bind fun _ _ => ?_
  · by_contra short
    have limit : Nat.max (k.minLength.getD 0) textLimit < unholdableLength :=
      Nat.max_lt.mpr ⟨Nat.not_le.mp short, by decide⟩
    omega
  · exact (keeps_drawn_gives (fillerText_gives length)).mono fun text same => same ▸ fits

theorem stringDraw_of_bare {setting : Setting σ} (unformatted : k.format = none) (plain : k.pattern = none) :
    stringDraw setting k = fillerDraw k := by
  unfold stringDraw formatDraw
  rw [unformatted, plain]
  rfl

/-- What cannot be held is not made. -/
theorem fillerDraw_unheld (unheld : unholdableLength ≤ k.minLength.getD 0) (source : σ) (text : String) :
    (fillerDraw k source).1 ≠ .ok text := by
  have never : Makes (fillerDraw k : Generate σ String) fun _ => False := by
    have inOrder : (lengthBounds k).1 ≤ (lengthBounds k).2 := Nat.le_max_right _ _
    refine (keeps_drawn_gives (Draw.natBetween_gives inOrder)).bind fun length ⟨least, _⟩ => ?_
    rw [holdLength, holdBelow, if_pos (Nat.le_trans unheld least)]
    exact (makes_throw _ : Makes (throw _) fun _ => False).bind fun _ => nofun
  exact (never source trivial).1.of_ok

theorem stringDraw_ends (setting : Setting σ) (plain : k.pattern = none) (ordered : LengthsOrdered k) :
    Keeps (fun _ : σ => True) (fun _ => unholdableLength ≤ k.minLength.getD 0) (stringDraw setting k)
      fun text => Admitted k text.length ∧ (k.format = none →
        text.length ≤ Nat.max (k.minLength.getD 0) textLimit ∧
        (k.maxLength = none → text.length ≤ Nat.max (k.minLength.getD 0) defaultMaxLength)) := by
  refine (formatDraw_ends setting ordered).bind fun answer fits => ?_
  cases answer with
  | some text =>
    obtain ⟨formatted, admitted⟩ := fits text rfl
    exact keeps_pure ⟨admitted, fun unformatted => absurd unformatted formatted⟩
  | none =>
    dsimp only
    rw [plain]
    exact (fillerDraw_ends ordered).mono fun text fits => ⟨fits.1, fun _ => fits.2⟩

/-- Whatever is drawn and whatever the samples are, a text of a node without a pattern has as many characters as
the node says. Without a format it is not much longer than it has to be: no longer than the default where no
greatest length is stated, and never longer than the limit. A text is made unless the least length is such that
no text of it can be held. -/
theorem stringDraw_length (setting : Setting σ) (k : Keywords) (plain : k.pattern = none)
    (ordered : LengthsOrdered k) (source : σ) :
    (∀ text, (stringDraw setting k source).1 = .ok text → Admitted k text.length ∧ (k.format = none →
      text.length ≤ Nat.max (k.minLength.getD 0) textLimit ∧
      (k.maxLength = none → text.length ≤ Nat.max (k.minLength.getD 0) defaultMaxLength))) ∧
    (k.minLength.getD 0 < unholdableLength → ∃ text, (stringDraw setting k source).1 = .ok text) := by
  have ends := (stringDraw_ends setting plain ordered source trivial).1
  exact ⟨fun text => ends.of_ok, fun short => ends.exists_ok fun _ => Nat.not_le.mpr short⟩

/-- A host of three or four characters is built, since no sample is so short. -/
theorem stringDraw_length_shortHost :
    let k : Keywords := { format := some "hostname", minLength := some 3, maxLength := some 4 }
    k.pattern = none ∧ LengthsOrdered k ∧
      ∃ text, (stringDraw ⟨Samples.ofVocabulary, ⟨0⟩⟩ k (⟨[], 0, 0⟩ : Script)).1 = .ok text ∧
        3 ≤ text.length ∧ text.length ≤ 4 := by
  intro k
  have ordered : LengthsOrdered k := by
    rintro _ _ ⟨⟩ ⟨⟩
    decide
  obtain ⟨fits, made⟩ := stringDraw_length ⟨Samples.ofVocabulary, ⟨0⟩⟩ k rfl ordered (⟨[], 0, 0⟩ : Script)
  obtain ⟨text, same⟩ := made (by decide)
  obtain ⟨⟨least, most⟩, -⟩ := fits text same
  exact ⟨rfl, ordered, text, same, least, most 4 rfl⟩

/-- No text is made where the least length is too long for any. -/
theorem stringDraw_unheld :
    let k : Keywords := { minLength := some (2 ^ 63 - 1) }
    k.pattern = none ∧ LengthsOrdered k ∧
      ∀ text, (stringDraw ⟨Samples.ofVocabulary, ⟨0⟩⟩ k (⟨[], 0, 0⟩ : Script)).1 ≠ .ok text := by
  intro k
  have unheld : unholdableLength ≤ k.minLength.getD 0 := by decide
  refine ⟨rfl, nofun, ?_⟩
  rw [stringDraw_of_bare rfl rfl]
  exact fillerDraw_unheld unheld _

end Generation

end MockApi
