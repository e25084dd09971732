import MockApi.Proofs.Generation.Sizes
import Mathlib.Data.List.Chain
import Mathlib.Data.List.Induction

/-!
# Filler text is tidy

Filler text is the beginning of a phrase, of as many drawn words as it takes with single spaces between them
(`fillerText_eq`). A phrase is tidy: it has small letters and single spaces only, and begins and ends with a letter
(`phrase_tidy`). Where its beginning ends with a space, an `s` takes the place of the space, so that the text is tidy
wherever the cut falls (`Tidy.cut`). It is as long as is asked for (`fillerText_tidy`).
-/

namespace MockApi

theorem Draw.bind_apply {σ α β : Type} (draw : Draw σ α) (next : α → Draw σ β) (source : σ) :
    (draw >>= next) source = next (draw source).1 (draw source).2 :=
  rfl

namespace Generation

variable {σ : Type} [Source σ] {words : List String} {s w : List Char} {length : Nat}

/-! ### Phrases -/

/-- Words with single spaces between them. -/
def phrase (words : List String) : List Char := (" ".intercalate words).toList

theorem phrase_nil : phrase [] = [] := by
  simp [phrase]

theorem phrase_singleton (word : String) : phrase [word] = word.toList := by
  simp [phrase]

theorem phrase_concat (inhabited : words ≠ []) (word : String) :
    phrase (words ++ [word]) = phrase words ++ ' ' :: word.toList := by
  rw [phrase, String.intercalate_append_of_ne_nil inhabited (List.cons_ne_nil _ _), String.intercalate_singleton,
    String.toList_append, String.toList_append]
  exact List.append_assoc _ _ _

theorem fillerWords_label : ∀ word ∈ fillerWords, IsLabel word.toList := by
  have each : ∀ word ∈ fillerWords, word.toList ≠ [] ∧ word.toList.all Char.isLower = true := by
    decide
  exact fun word mem => ⟨(each word mem).1, List.all_eq_true.mp (each word mem).2⟩

/-- A word takes room. -/
theorem length_phrase_lt (words : List String) {word : String} (label : IsLabel word.toList) :
    (phrase words).length < (phrase (words ++ [word])).length := by
  by_cases alone : words = []
  · subst alone
    rw [phrase_nil, List.nil_append, phrase_singleton]
    exact List.length_pos_of_ne_nil label.1
  · rw [phrase_concat alone, List.length_append, List.length_cons]
    omega

theorem phrase_ne_nil (known : words ⊆ fillerWords) (inhabited : words ≠ []) : phrase words ≠ [] := by
  obtain ⟨others, word, rfl⟩ := (List.eq_nil_or_concat' words).resolve_left inhabited
  have label := fillerWords_label word (known List.mem_concat_self)
  exact List.ne_nil_of_length_pos (Nat.zero_lt_of_lt (length_phrase_lt others label))

/-! ### Words are drawn until there are enough -/

def fillerWord : Draw σ String := do return fillerWords.getD (← Draw.index fillerWords.length) ""

theorem fillerWord_gives : (fillerWord : Draw σ String).Gives (· ∈ fillerWords) := by
  have inhabited : 0 < fillerWords.length := by decide
  refine (Draw.index_gives inhabited).bind fun i small => Draw.gives_pure ?_
  rw [List.getD_eq_getElem _ _ small]
  exact List.getElem_mem small

/-- The words that are drawn behind those `before`: as many as it takes to have `length` characters, and no more. -/
structure Gathered (length : Nat) (before words : List String) (source after : σ) : Prop where
  drawn : Draw.times words.length fillerWord source = (words, after)
  known : words ⊆ fillerWords
  enough : length ≤ (phrase (before ++ words)).length
  needed : words ≠ [] → (phrase (before ++ words.dropLast)).length < length

theorem Gathered.nil (full : length ≤ (phrase words).length) (source : σ) :
    Gathered length words [] source source where
  drawn := rfl
  known := List.nil_subset _
  enough := by rwa [List.append_nil]
  needed inhabited := absurd rfl inhabited

theorem Gathered.cons {source after : σ} {more : List String} (short : (phrase words).length < length)
    (gathered : Gathered length (words ++ [(fillerWord source).1]) more (fillerWord source).2 after) :
    Gathered length words ((fillerWord source).1 :: more) source after where
  drawn := by
    show ((fillerWord source).1 :: (Draw.times more.length fillerWord (fillerWord source).2).1,
      (Draw.times more.length fillerWord (fillerWord source).2).2) = _
    rw [gathered.drawn]
  known := List.cons_subset.mpr ⟨fillerWord_gives source, gathered.known⟩
  enough := by
    rw [List.append_cons]
    exact gathered.enough
  needed _ := by
    cases more with
    | nil => simpa using short
    | cons next rest =>
      rw [List.dropLast_cons_cons, List.append_cons]
      exact gathered.needed (List.cons_ne_nil _ _)

theorem fill_full (full : length ≤ (phrase words).length) (fuel : Nat) (source : σ) :
    ∃ more after, Gathered length words more source after ∧
      fill fuel (length - (phrase words).length) (phrase words).reverse source =
        ((phrase (words ++ more)).reverse, after) := by
  refine ⟨[], source, .nil full source, ?_⟩
  rw [Nat.sub_eq_zero_of_le full, List.append_nil]
  cases fuel <;> rfl

theorem fill_succ (fuel room : Nat) (soFar : List Char) :
    (fill (fuel + 1) (room + 1) soFar : Draw σ _) = (do
      let word := (← fillerWord).toList
      let gap := if soFar.isEmpty then [] else [' ']
      fill fuel (room + 1 - (gap.length + word.length)) (word.reverse ++ gap ++ soFar)) := by
  simp only [fill, fillerWord, bind_assoc, pure_bind]

/-- Where there is room left behind a phrase, it gets one word more. -/
theorem fill_short (known : words ⊆ fillerWords) (short : (phrase words).length < length) (fuel : Nat) (source : σ) :
    fill (fuel + 1) (length - (phrase words).length) (phrase words).reverse source =
      fill fuel (length - (phrase (words ++ [(fillerWord source).1])).length)
        (phrase (words ++ [(fillerWord source).1])).reverse (fillerWord source).2 := by
  obtain ⟨room, left⟩ := Nat.exists_eq_add_one.mpr (Nat.sub_pos_of_lt short)
  rw [left, fill_succ, Draw.bind_apply, ← left]
  by_cases alone : words = []
  · subst alone
    simp [phrase_nil, phrase_singleton]
  · have solid : (phrase words).reverse.isEmpty = false := by
      simpa using phrase_ne_nil known alone
    simp [phrase_concat alone, solid, Nat.sub_sub, Nat.add_comm]

/-- The room behind a phrase is filled with further words. Each takes room, so that the fuel lasts. -/
theorem fill_gathers {fuel : Nat} (known : words ⊆ fillerWords) (fueled : length - (phrase words).length ≤ fuel)
    (source : σ) :
    ∃ more after, Gathered length words more source after ∧
      fill fuel (length - (phrase words).length) (phrase words).reverse source =
        ((phrase (words ++ more)).reverse, after) := by
  induction fuel generalizing words source with
  | zero =>
    have full : length ≤ (phrase words).length := by omega
    exact fill_full full 0 source
  | succ fuel ih =>
    by_cases full : length ≤ (phrase words).length
    · exact fill_full full _ source
    · have short := Nat.not_le.mp full
      have word := fillerWord_gives source
      have longer := length_phrase_lt words (fillerWords_label _ word)
      have known_more := List.append_subset.mpr ⟨known, List.cons_subset.mpr ⟨word, List.nil_subset _⟩⟩
      obtain ⟨more, after, gathered, run⟩ := ih known_more (by omega) (fillerWord source).2
      refine ⟨_, after, gathered.cons short, ?_⟩
      rw [fill_short known short, run, ← List.append_cons]

/-! ### Tidy texts -/

/-- Small letters and single spaces, with no space at the start or at the end. -/
structure Tidy (s : List Char) : Prop where
  letters : ∀ c ∈ s, c.isLower = true ∨ c = ' '
  start : s.head? ≠ some ' '
  finish : s.getLast? ≠ some ' '
  apart : s.IsChain fun c next => ¬(c = ' ' ∧ next = ' ')

theorem IsLabel.ne_space (label : IsLabel w) {c : Char} (mem : c ∈ w) : c ≠ ' ' := by
  rintro rfl
  exact label.not_mem rfl mem

theorem IsLabel.tidy (label : IsLabel w) : Tidy w where
  letters c mem := .inl (label.2 c mem)
  start space := label.ne_space (List.mem_of_head? space) rfl
  finish space := label.ne_space (List.mem_of_getLast? space) rfl
  apart := by
    refine (List.pairwise_of_forall_mem_list fun c mem next _ => ?_).isChain
    exact fun spaces => label.ne_space mem spaces.1

theorem Tidy.concat (tidy : Tidy s) (solid : s ≠ []) (label : IsLabel w) : Tidy (s ++ ' ' :: w) where
  letters := List.forall_mem_append.mpr ⟨tidy.letters, List.forall_mem_cons.mpr ⟨.inr rfl, label.tidy.letters⟩⟩
  start := by
    rw [List.head?_append_of_ne_nil _ solid]
    exact tidy.start
  finish := by
    rw [List.append_cons, List.getLast?_append_of_ne_nil _ label.1]
    exact label.tidy.finish
  apart := by
    have behind : List.IsChain (fun c next => ¬(c = ' ' ∧ next = ' ')) (' ' :: w) :=
      List.isChain_cons.mpr ⟨fun c first spaces => label.tidy.start (spaces.2 ▸ first), label.tidy.apart⟩
    exact List.isChain_append.mpr ⟨tidy.apart, behind, fun c last _ _ spaces => tidy.finish (spaces.1 ▸ last)⟩

theorem phrase_tidy (known : words ⊆ fillerWords) : Tidy (phrase words) := by
  induction words using List.reverseRecOn with
  | nil =>
    rw [phrase_nil]
    exact ⟨nofun, nofun, nofun, .nil⟩
  | append_singleton words word ih =>
    obtain ⟨others, last⟩ := List.append_subset.mp known
    have label := fillerWords_label word (last (List.mem_singleton_self word))
    by_cases alone : words = []
    · subst alone
      rw [List.nil_append, phrase_singleton]
      exact label.tidy
    · rw [phrase_concat alone]
      exact (ih others).concat (phrase_ne_nil others alone) label

/-! ### Wherever the cut falls -/

/-- The text with an `s` in place of a space at its end. -/
def withClosedEnd (s : List Char) : List Char :=
  if s.getLast? = some ' ' then s.dropLast ++ ['s'] else s

theorem reverse_closeEnd (s : List Char) : (closeEnd s).reverse = withClosedEnd s.reverse := by
  unfold withClosedEnd closeEnd
  rw [List.getLast?_reverse]
  split
  · simp
  · rename_i solid
    rw [if_neg fun space => ?_]
    obtain ⟨rest, same⟩ := List.head?_eq_some_iff.mp space
    exact solid rest same

/-- Only its end may keep the beginning of a tidy text from being tidy. -/
theorem Tidy.of_prefix {t : List Char} (tidy : Tidy s) (beginning : t <+: s) (finish : t.getLast? ≠ some ' ') :
    Tidy t where
  letters c mem := tidy.letters c (beginning.subset mem)
  start space := by
    obtain ⟨rest, rfl⟩ := beginning
    exact tidy.start (by rw [List.head?_append, space, Option.some_or])
  finish := finish
  apart := tidy.apart.prefix beginning

theorem Tidy.snoc (tidy : Tidy s) {c : Char} (lower : c.isLower = true) : Tidy (s ++ [c]) where
  letters := List.forall_mem_append.mpr ⟨tidy.letters, List.forall_mem_singleton.mpr (.inl lower)⟩
  start := by
    cases s with
    | nil =>
      rintro ⟨⟩
      cases lower
    | cons first rest => exact tidy.start
  finish := by
    rw [List.getLast?_concat]
    rintro ⟨⟩
    cases lower
  apart := by
    refine List.isChain_append.mpr ⟨tidy.apart, .singleton c, fun last mem _ _ spaces => ?_⟩
    exact tidy.finish (spaces.1 ▸ mem)

theorem Tidy.cut (tidy : Tidy s) (length : Nat) : Tidy (withClosedEnd (s.take length)) := by
  unfold withClosedEnd
  split
  · rename_i space
    obtain ⟨init, same⟩ := List.getLast?_eq_some_iff.mp space
    rw [same, List.dropLast_concat]
    have beginning : init ++ [' '] <+: s := same ▸ List.take_prefix length s
    -- a space behind `init` keeps it from ending with one
    have finish : init.getLast? ≠ some ' ' := fun last => by
      have chain := tidy.apart.prefix beginning
      exact (List.isChain_append.mp chain).2.2 ' ' last ' ' rfl ⟨rfl, rfl⟩
    exact (tidy.of_prefix ((List.prefix_append _ _).trans beginning) finish).snoc rfl
  · rename_i solid
    exact tidy.of_prefix (List.take_prefix length s) solid

/-! ### Filler text -/

theorem fillerText_eq (length : Nat) (source : σ) :
    ∃ words after, Gathered length [] words source after ∧
      fillerText length source = (String.ofList (withClosedEnd ((phrase words).take length)), after) := by
  have fueled : length - (phrase []).length ≤ length := Nat.sub_le _ _
  obtain ⟨words, after, gathered, run⟩ := fill_gathers (List.nil_subset _) fueled source
  rw [phrase_nil, List.nil_append] at run
  have run : fill length length [] source = ((phrase words).reverse, after) := run
  have cut : ((phrase words).reverse.drop ((phrase words).reverse.length - length)).reverse =
      (phrase words).take length := by
    rw [List.reverse_drop, List.reverse_reverse, Nat.sub_sub_self]
    rw [List.length_reverse]
    exact gathered.enough
  refine ⟨words, after, gathered, ?_⟩
  rw [fillerText, Draw.bind_apply, run, reverse_closeEnd, cut]
  rfl

/-- Whatever is drawn, filler text of every length that can be held is made. It is the beginning of the words that are
drawn, it has exactly that many characters, and it is tidy. -/
theorem fillerText_tidy (holdable : length < unholdableLength) (source : σ) :
    ∃ words text after, Gathered length [] words source after ∧
      (do holdLength length; drawn (fillerText length) : Generate σ String) source = (.ok text, after) ∧
      text.toList = withClosedEnd ((phrase words).take length) ∧ text.length = length ∧ Tidy text.toList := by
  obtain ⟨words, after, gathered, made⟩ := fillerText_eq length source
  have held : (holdLength length : Generate σ Unit) source = (.ok (), source) := by
    rw [holdLength, holdBelow, if_neg (Nat.not_le.mpr holdable)]
    rfl
  have size := fillerText_gives length source
  rw [made] at size
  refine ⟨words, _, after, gathered, ?_, String.toList_ofList, size, ?_⟩
  · rw [bind_of_ok held]
    exact congrArg (fun run : String × σ => (Except.ok run.1, run.2)) made
  · rw [String.toList_ofList]
    exact (phrase_tidy gathered.known).cut length

/-- Six characters of `lorem lorem` would end with the space. -/
theorem fillerText_tidy_lorems :
    let source : Script := ⟨[0, 0], 0, 0⟩
    6 < unholdableLength ∧ ∃ words text after, Gathered 6 [] words source after ∧
      (do holdLength 6; drawn (fillerText 6) : Generate Script String) source = (.ok text, after) ∧
      text = "lorems" ∧ Tidy text.toList := by
  intro source
  have holdable : 6 < unholdableLength := by decide
  obtain ⟨words, text, after, gathered, made, -, -, tidy⟩ := fillerText_tidy holdable source
  have value : ((do holdLength 6; drawn (fillerText 6) : Generate Script String) source).1 = .ok "lorems" := by
    decide +kernel
  rw [made] at value
  exact ⟨holdable, words, text, after, gathered, made, Except.ok.inj value, tidy⟩

end Generation

end MockApi
