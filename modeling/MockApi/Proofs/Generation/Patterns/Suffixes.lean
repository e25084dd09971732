import Mathlib.Data.List.TakeWhile
import MockApi.Proofs.Generation.Patterns.Reading

/-!
# Suffixes of quantifiers

A quantifier may have a question mark behind it, which changes nothing of what is generated. The reader takes the mark
for such a suffix unless the quantifier asks for exactly one repetition: then the mark is read as a character of its own
(`parse_suffixed_eq_iff`). To compare the two readings of a pattern, it is shown that the reader comes to the quantifier
in the same way with and without the mark, and that what was read once stays where it is.
-/

namespace MockApi.Generation.Pattern

open Written (Unquantified parseBounds_braced parseQuantifier_text classMembers_close parseClass_of_caretless)

/-! ### Counts -/

/-- The characters that a number may be written with. -/
def isCountChar (c : Char) : Bool := Text.isBlank c || c.isDigit || c == '+'

theorem isCountChar_of_readCount {s : List Char} {n : Nat} (read : readCount s = some n) {c : Char} (mem : c ∈ s) :
    isCountChar c := by
  obtain ⟨_, number, -⟩ := Option.map_eq_some_iff.mp read
  rcases Text.mem_trimChars mem with kept | blank
  · obtain ⟨plus, noughts, same⟩ := (Text.readNat?_eq_some_iff.mp number).2
    rcases Text.of_mem_numeral (same ▸ kept) with digit | rfl
    · simp [isCountChar, digit]
    · rfl
  · simp [isCountChar, blank]

/-- Bounds are written with the characters of numbers and a comma. -/
theorem isCountChar_of_readBounds {s : List Char} {b : Bounds} (read : readBounds s = some b) {c : Char}
    (mem : c ∈ s) : isCountChar c ∨ c = ',' := by
  unfold readBounds at read
  split at read
  · obtain ⟨n, count, -⟩ := Option.map_eq_some_iff.mp read
    exact .inl (isCountChar_of_readCount count mem)
  · rename_i low high split
    obtain ⟨n, count, read⟩ := Option.bind_eq_some_iff.mp read
    rw [Text.splitOnce_eq_some split, List.mem_append, List.mem_cons] at mem
    rcases mem with mem | rfl | mem
    · exact .inl (isCountChar_of_readCount count mem)
    · exact .inr rfl
    · refine .inl ?_
      split at read
      · rename_i blank
        rcases Text.mem_trimChars mem with kept | blank'
        · rw [List.isEmpty_iff.mp blank] at kept
          cases kept
        · simp [isCountChar, blank']
      · obtain ⟨m, count', -⟩ := Option.bind_eq_some_iff.mp read
        exact isCountChar_of_readCount count' mem

theorem not_mem_of_readCount {s : List Char} {n : Nat} (read : readCount s = some n) {c : Char}
    (other : isCountChar c = false) : c ∉ s := by
  intro mem
  rw [isCountChar_of_readCount read mem] at other
  cases other

/-! ### Quantifiers -/

/-- The quantifiers, with the bounds that are read from them. Numbers are cut down to the greatest that is allowed, and
the second bound is at least the first. -/
inductive Quantifies : List Char → Bounds → Prop
  | optional : Quantifies ['?'] ⟨0, 1, false⟩
  | star : Quantifies ['*'] ⟨0, unboundedExtra, true⟩
  | plus : Quantifies ['+'] ⟨1, 1 + unboundedExtra, true⟩
  | exactly {s : List Char} {n : Nat} (count : readCount s = some n) :
    Quantifies ('\x7b' :: (s ++ ['\x7d'])) ⟨n, n, false⟩
  | atLeast {s blanks : List Char} {n : Nat} (count : readCount s = some n)
    (blank : (Text.trimChars blanks).isEmpty) :
    Quantifies ('\x7b' :: (s ++ ',' :: blanks ++ ['\x7d'])) ⟨n, n + unboundedExtra, true⟩
  | between {s t : List Char} {n m : Nat} (count : readCount s = some n) (count' : readCount t = some m) :
    Quantifies ('\x7b' :: (s ++ ',' :: t ++ ['\x7d'])) ⟨n, Nat.max m n, false⟩

namespace Quantifies

variable {q : List Char} {b : Bounds}

/-- A quantifier is read as it stands, whatever follows. -/
theorem parseBounds_append (quantifies : Quantifies q b) (rest : List Char) : parseBounds (q ++ rest) = (b, rest) := by
  have outside : isCountChar '\x7d' = false := by decide +kernel
  have comma : isCountChar ',' = false := by decide +kernel
  cases quantifies with
  | optional => rfl
  | star => rfl
  | plus => rfl
  | @exactly s n count =>
    have read : readBounds s = some ⟨n, n, false⟩ := by
      rw [readBounds, Text.splitOnce_of_not_mem (not_mem_of_readCount count comma), count]
      rfl
    exact parseBounds_braced (not_mem_of_readCount count outside) read rest
  | @atLeast s blanks n count blank =>
    have read : readBounds (s ++ ',' :: blanks) = some ⟨n, n + unboundedExtra, true⟩ := by
      rw [readBounds, Text.splitOnce_append (not_mem_of_readCount count comma)]
      simp [count, blank]
    have free : '\x7d' ∉ blanks := by
      intro mem
      rcases Text.mem_trimChars mem with kept | blank'
      · rw [List.isEmpty_iff.mp blank] at kept
        cases kept
      · exact absurd blank' (by decide +kernel)
    exact parseBounds_braced (by simp [not_mem_of_readCount count outside, free]) read rest
  | @between s t n m count count' =>
    have read : readBounds (s ++ ',' :: t) = some ⟨n, Nat.max m n, false⟩ := by
      have inhabited : (Text.trimChars t).isEmpty = false := by
        rw [Bool.eq_false_iff]
        intro empty
        rw [readCount, List.isEmpty_iff.mp empty] at count'
        cases count'
      rw [readBounds, Text.splitOnce_append (not_mem_of_readCount count comma)]
      simp [count, count', inhabited]
    refine parseBounds_braced ?_ read rest
    simp [not_mem_of_readCount count outside, not_mem_of_readCount count' outside]

/-- A quantifier has a character that no bounds are written with, so that none are read across its beginning. -/
theorem exists_foreign (quantifies : Quantifies q b) (rest : List Char) :
    ∃ c ∈ (q ++ '?' :: rest).takeWhile (· ≠ '\x7d'), ¬(isCountChar c ∨ c = ',') := by
  have opening (s : List Char) : ∃ c ∈ ('\x7b' :: s).takeWhile (· ≠ '\x7d'), ¬(isCountChar c ∨ c = ',') := by
    rw [List.takeWhile_cons_of_pos (by decide)]
    exact ⟨_, List.mem_cons_self, by decide +kernel⟩
  cases quantifies with
  | optional => exact ⟨'?', by simp, by decide +kernel⟩
  | star => exact ⟨'?', by simp, by decide +kernel⟩
  | plus => exact ⟨'?', by simp, by decide +kernel⟩
  | exactly | atLeast | between => exact opening _

end Quantifies

/-! ### The reader takes from the front -/

theorem suffix_parseBounds (s : List Char) : (parseBounds s).2 <:+ s := by
  unfold parseBounds
  split
  · exact List.suffix_cons _ _
  · exact List.suffix_cons _ _
  · exact List.suffix_cons _ _
  · split
    · exact ((List.drop_suffix _ _).trans (List.dropWhile_suffix _)).trans (List.suffix_cons _ _)
    · exact List.suffix_rfl
  · exact List.suffix_rfl

theorem suffix_parseQuantifier (s : List Char) : (parseQuantifier s).2 <:+ s := by
  have front := suffix_parseBounds s
  unfold parseQuantifier
  dsimp only
  split
  · exact front
  · split
    · rename_i same
      exact (List.suffix_cons _ _).trans (same ▸ front)
    · rename_i same
      exact (List.suffix_cons _ _).trans (same ▸ front)
    · exact front

theorem suffix_push (p : Progress) (atom : Atom) (s : List Char) : (p.push atom s).2 <:+ s := suffix_parseQuantifier s

/-- A character that neither escapes, nor begins a range, nor closes the class is a member. -/
theorem classMembers_cons {first : Bool} {c : Char} {s : List Char} (plain : c ≠ '\\')
    (single : ∀ last rest, s ≠ '-' :: last :: rest) (within : ¬(c = ']' ∧ (!first) = true)) :
    classMembers first (c :: s) = (c :: (classMembers false s).1, (classMembers false s).2) := by
  rw [classMembers.eq_def]
  split
  · rename_i same
    cases same
  · rename_i same
    cases same
    exact absurd rfl plain
  · rename_i same
    cases same
    exact absurd rfl plain
  · rename_i same
    cases same
    exact absurd rfl (single _ _)
  · rename_i same
    obtain ⟨rfl, rfl⟩ := List.cons.inj same
    rw [if_neg within]

/-- A class is read from its own characters, whatever follows its closing bracket. -/
theorem classMembers_front (first : Bool) (s : List Char) (behind : (classMembers first s).2 ≠ []) :
    ∃ front, front ≠ [] ∧ s = front ++ (classMembers first s).2 ∧
      ∀ rest, classMembers first (front ++ rest) = ((classMembers first s).1, rest) := by
  fun_induction classMembers first s with
  | case1 => exact absurd rfl behind
  | case2 => exact absurd rfl behind
  | case3 first c s members rest read ih =>
    rw [read] at ih
    obtain ⟨front, -, rfl, reads⟩ := ih behind
    refine ⟨'\\' :: c :: front, nofun, rfl, fun rest' => ?_⟩
    rw [List.cons_append, List.cons_append, classMembers, reads]
  | case4 first c last s _ closes =>
    obtain ⟨rfl, inside⟩ := closes
    obtain rfl : first = false := by simpa using inside
    exact ⟨[']'], nofun, rfl, fun rest => classMembers_close rest⟩
  | case5 first c s plain within members rest read ih =>
    -- the hyphen is the last member
    have last (s : List Char) : classMembers false ('-' :: ']' :: s) = (['-'], s) := by
      rw [classMembers_cons (by decide) (by simp) (by decide), classMembers_close]
    obtain ⟨rfl, rfl⟩ := Prod.mk.inj ((last s).symm.trans read)
    refine ⟨[c, '-', ']'], nofun, rfl, fun rest => ?_⟩
    show classMembers first (c :: '-' :: ']' :: rest) = _
    rw [classMembers, if_neg within, if_pos rfl, last]
    exact plain
  | case6 first c last s plain within other members rest read ih =>
    rw [read] at ih
    obtain ⟨front, -, rfl, reads⟩ := ih behind
    refine ⟨c :: '-' :: last :: front, nofun, rfl, fun rest' => ?_⟩
    rw [List.cons_append, List.cons_append, List.cons_append, classMembers, if_neg within, if_neg other, reads]
    exact plain
  | case7 first c s _ _ _ closes =>
    obtain ⟨rfl, inside⟩ := closes
    obtain rfl : first = false := by simpa using inside
    exact ⟨[']'], nofun, rfl, fun rest => classMembers_close rest⟩
  | case8 first c s alone escapes single within members rest read ih =>
    rw [read] at ih
    obtain ⟨front, inhabited, rfl, reads⟩ := ih behind
    refine ⟨c :: front, nofun, rfl, fun rest' => ?_⟩
    have plain : c ≠ '\\' := by
      intro same
      cases split : front ++ rest with
      | nil => exact alone same split
      | cons d more => exact escapes d more same split
    have single' (last : Char) (more : List Char) : front ++ rest' ≠ '-' :: last :: more := by
      intro hyphen
      cases front with
      | nil => exact inhabited rfl
      | cons d front =>
        obtain ⟨rfl, -⟩ := List.cons.inj hyphen
        cases split : front ++ rest with
        | nil => exact behind (List.append_eq_nil_iff.mp split).2
        | cons e more => exact single e more (congrArg ('-' :: ·) split)
    rw [List.cons_append, classMembers_cons plain single' within, reads]

theorem parseClass_front (s : List Char) (behind : (parseClass s).2 ≠ []) :
    ∃ front, s = front ++ (parseClass s).2 ∧ ∀ rest, parseClass (front ++ rest) = ((parseClass s).1, rest) := by
  have caret (s : List Char) : parseClass ('^' :: s) =
      ((charRange '!' '~').filter (!(classMembers true s).1.contains ·), (classMembers true s).2) := rfl
  by_cases negated : s.head? = some '^'
  · obtain ⟨s, rfl⟩ := List.head?_eq_some_iff.mp negated
    obtain ⟨front, -, same, reads⟩ := classMembers_front true s behind
    refine ⟨'^' :: front, congrArg ('^' :: ·) same, fun rest => ?_⟩
    rw [List.cons_append, caret, reads, caret]
  · rw [parseClass_of_caretless negated] at behind ⊢
    obtain ⟨front, inhabited, same, reads⟩ := classMembers_front true s behind
    refine ⟨front, same, fun rest => ?_⟩
    rw [← reads rest]
    refine parseClass_of_caretless ?_
    cases front with
    | nil => exact absurd rfl inhabited
    | cons c front =>
      rw [same] at negated
      exact negated

theorem suffix_parseClass (s : List Char) : (parseClass s).2 <:+ s := by
  by_cases behind : (parseClass s).2 = []
  · rw [behind]
    exact List.nil_suffix
  · obtain ⟨front, same, -⟩ := parseClass_front s behind
    exact ⟨front, same.symm⟩

theorem suffix_dropGroupMark (s : List Char) : dropGroupMark s <:+ s := by
  unfold dropGroupMark
  split
  · exact (List.suffix_cons _ _).trans (List.suffix_cons _ _)
  · exact List.suffix_cons _ _
  · exact List.suffix_rfl

theorem suffix_step (p : Progress) (c : Char) (s : List Char) : (p.step c s).2 <:+ s := by
  unfold Progress.step
  split
  · split
    · exact suffix_push _ _ _
    · unfold Progress.close
      split
      · exact List.suffix_rfl
      · exact suffix_push _ _ _
  · exact List.suffix_rfl
  · exact List.suffix_rfl
  · exact List.suffix_rfl
  · split
    · exact (suffix_push _ _ _).trans (List.suffix_cons _ _)
    · exact suffix_push _ _ _
  · exact (suffix_push _ _ _).trans (suffix_parseClass _)
  · exact suffix_dropGroupMark _
  · exact suffix_push _ _ _
  · exact suffix_push _ _ _

/-! ### The way to a quantifier -/

/-- The reader gets, one step after the other, from one place in the text to another. -/
inductive Gets : Progress → List Char → Progress → List Char → Prop
  | refl (p : Progress) (s : List Char) : Gets p s p s
  | step {p p' p'' : Progress} {c : Char} {s s' s'' : List Char} (steps : p.step c s = (p', s'))
    (gets : Gets p' s' p'' s'') : Gets p (c :: s) p'' s''

namespace Gets

variable {p p' : Progress} {s s' : List Char}

theorem suffix (gets : Gets p s p' s') : s' <:+ s := by
  induction gets with
  | refl => exact List.suffix_rfl
  | @step p p' p'' c s s' s'' steps _ ih =>
    have front := suffix_step p c s
    rw [steps] at front
    exact (ih.trans front).trans (List.suffix_cons c s)

end Gets

/-- The atom that a step takes: where it is put, and the text in which its quantifier may follow. -/
def Progress.atom? (p : Progress) (c : Char) (rest : List Char) : Option (Progress × Atom × List Char) :=
  match c with
  | ')' => match p.outer with
    | [] => some (p, .literal ')', rest)
    | around :: outer => some (⟨outer, around⟩, .group p.here.toList, rest)
  | '|' | '^' | '$' | '(' => none
  | '\\' => match rest with
    | escaped :: rest => some (p, escapeAtom escaped, rest)
    | [] => some (p, .literal '\\', [])
  | '[' => some (p, .class (parseClass rest).1, (parseClass rest).2)
  | '.' => some (p, .class wordChars, rest)
  | c => some (p, .literal c, rest)

/-- A group is put where it was opened, and every other atom where the reader is. -/
theorem Progress.atom?_eq_some {p around : Progress} {c : Char} {s rest : List Char} {atom : Atom}
    (takes : p.atom? c s = some (around, atom, rest)) :
    around = p ∨ ∃ outer, p.outer = around.here :: outer ∧ around.outer = outer ∧ atom = .group p.here.toList := by
  unfold atom? at takes
  split at takes
  · split at takes
    · cases takes
      exact .inl rfl
    · rename_i here outer inside
      cases takes
      exact .inr ⟨outer, inside, rfl, rfl⟩
  · cases takes
  · cases takes
  · cases takes
  · cases takes
  · split at takes <;> cases takes <;> exact .inl rfl
  · cases takes
    exact .inl rfl
  · cases takes
    exact .inl rfl
  · cases takes
    exact .inl rfl

theorem Progress.step_of_atom? {p around : Progress} {c : Char} {s rest : List Char} {atom : Atom}
    (takes : p.atom? c s = some (around, atom, rest)) : p.step c s = around.push atom rest := by
  unfold atom? at takes
  unfold step
  split at takes
  · split at takes
    · rename_i top
      cases takes
      simp [top]
    · rename_i inside
      cases takes
      simp [close, inside]
  · cases takes
  · cases takes
  · cases takes
  · cases takes
  · split at takes <;> cases takes <;> rfl
  · cases takes
    rfl
  · cases takes
    rfl
  · cases takes
    split
    all_goals first | rfl | simp_all

/-! ### With a mark behind the quantifier

Up to a quantifier the text is read in the same way, whether a question mark is put behind it or not. The reader looks
ahead only for the end of a brace; and no bounds are read across the beginning of a quantifier with a mark. -/

/-- What the first character decides, other than an opening brace. -/
theorem parseBounds_cons (c : Char) : c = '\x7b' ∨ (∃ b, ∀ s, parseBounds (c :: s) = (b, s)) ∨
    ∀ s, parseBounds (c :: s) = (.once, c :: s) := by
  by_cases question : c = '?'
  · subst question
    exact .inr (.inl ⟨_, fun s => rfl⟩)
  by_cases star : c = '*'
  · subst star
    exact .inr (.inl ⟨_, fun s => rfl⟩)
  by_cases plus : c = '+'
  · subst plus
    exact .inr (.inl ⟨_, fun s => rfl⟩)
  by_cases brace : c = '\x7b'
  · exact .inl brace
  · refine .inr (.inr fun s => ?_)
    unfold parseBounds
    split <;> simp_all

section

variable {inner : List Char}

theorem takeWhile_open (free : '\x7d' ∉ inner) (s : List Char) :
    (inner ++ s).takeWhile (· ≠ '\x7d') = inner ++ s.takeWhile (· ≠ '\x7d') :=
  List.takeWhile_append_of_pos fun _ mem => decide_eq_true (ne_of_mem_of_not_mem mem free)

theorem dropWhile_open (free : '\x7d' ∉ inner) (s : List Char) :
    (inner ++ s).dropWhile (· ≠ '\x7d') = s.dropWhile (· ≠ '\x7d') :=
  List.dropWhile_append_of_pos fun _ mem => decide_eq_true (ne_of_mem_of_not_mem mem free)

/-- A brace that holds no bounds is a character like others. -/
theorem parseBounds_unread {s : List Char} (unread : readBounds (s.takeWhile (· ≠ '\x7d')) = none) :
    parseBounds ('\x7b' :: s) = (.once, '\x7b' :: s) := by
  rw [parseBounds, unread]

/-- The brace is closed, so that what follows does not matter. -/
theorem parseBounds_closed (free : '\x7d' ∉ inner) : (∃ b, ∀ s, parseBounds ('\x7b' :: (inner ++ '\x7d' :: s)) = (b, s)) ∨
    ∀ s, parseBounds ('\x7b' :: (inner ++ '\x7d' :: s)) = (.once, '\x7b' :: (inner ++ '\x7d' :: s)) := by
  cases read : readBounds inner with
  | some b =>
    refine .inl ⟨b, fun s => ?_⟩
    have whole := parseBounds_braced free read s
    rwa [Written.Quantifier.chars.braced, List.cons_append, List.append_assoc] at whole
  | none =>
    refine .inr fun s => parseBounds_unread ?_
    rw [takeWhile_open free, List.takeWhile_cons_of_neg (by decide), List.append_nil, read]

end

section

variable {q after : List Char} {b : Bounds} {x y : List Char}

theorem not_append_suffix (inside : y ≠ []) (s : List Char) : ¬y ++ s <:+ s := by
  intro behind
  have lengths := behind.length_le
  rw [List.length_append] at lengths
  have some_ := List.length_pos_iff.mpr inside
  omega

theorem parseBounds_marked (quantifies : Quantifies q b) (inside : y ≠ []) {read : Bounds}
    (reads : parseBounds (x ++ (q ++ after)) = (read, y ++ (q ++ after))) :
    parseBounds (x ++ (q ++ '?' :: after)) = (read, y ++ (q ++ '?' :: after)) := by
  have short {s : List Char} (front : y ++ (q ++ after) <:+ s) : ¬s <:+ q ++ after := fun behind =>
    not_append_suffix inside _ (front.trans behind)
  -- what the first characters decide they decide with the mark, too
  have decided {z : List Char} {read' : Bounds} (first : ∀ s, parseBounds (x ++ s) = (read', z ++ s)) :
      parseBounds (x ++ (q ++ '?' :: after)) = (read, y ++ (q ++ '?' :: after)) := by
    obtain ⟨rfl, rest⟩ := Prod.mk.inj ((first _).symm.trans reads)
    rw [first, List.append_cancel_right rest]
  have front := suffix_parseBounds (x ++ (q ++ after))
  rw [reads] at front
  cases x with
  | nil => exact absurd List.suffix_rfl (short front)
  | cons c x =>
    rcases parseBounds_cons c with rfl | ⟨read', first⟩ | first
    · by_cases closed : '\x7d' ∈ x
      · obtain ⟨inner, behind, rfl, free⟩ := List.eq_append_cons_of_mem closed
        rcases parseBounds_closed free with ⟨read', first⟩ | first
        · exact decided (z := behind) fun s => by simpa using first (behind ++ s)
        · exact decided (z := '\x7b' :: (inner ++ '\x7d' :: behind)) fun s => by simpa using first (behind ++ s)
      · have unread : readBounds ((x ++ (q ++ '?' :: after)).takeWhile (· ≠ '\x7d')) = none := by
          rw [takeWhile_open closed, Option.eq_none_iff_forall_ne_some]
          intro b' found
          obtain ⟨c, mem, foreign⟩ := quantifies.exists_foreign after
          exact foreign (isCountChar_of_readBounds found (List.mem_append_right x mem))
        cases same : readBounds ((x ++ (q ++ after)).takeWhile (· ≠ '\x7d')) with
        | some b' =>
          -- the brace would be closed behind the quantifier
          rw [List.cons_append, parseBounds, same] at reads
          obtain ⟨-, rest⟩ := Prod.mk.inj reads
          refine absurd ?_ (short ⟨[], rest.symm⟩)
          rw [dropWhile_open closed]
          exact (List.drop_suffix _ _).trans (List.dropWhile_suffix _)
        | none =>
          rw [List.cons_append, parseBounds_unread same] at reads
          obtain ⟨rfl, rest⟩ := Prod.mk.inj reads
          have whole : ('\x7b' :: x) ++ (q ++ after) = y ++ (q ++ after) := rest
          rw [List.cons_append, parseBounds_unread unread, ← List.append_cancel_right whole]
          rfl
    · exact decided (z := x) fun s => first _
    · exact decided (z := c :: x) fun s => first _

theorem parseQuantifier_marked (quantifies : Quantifies q b) (inside : y ≠ []) {read : Bounds}
    (reads : parseQuantifier (x ++ (q ++ after)) = (read, y ++ (q ++ after))) :
    parseQuantifier (x ++ (q ++ '?' :: after)) = (read, y ++ (q ++ '?' :: after)) := by
  have bounds {z : List Char} (inside : z ≠ [])
      (reads : parseBounds (x ++ (q ++ after)) = (read, z ++ (q ++ after))) :=
    parseBounds_marked quantifies inside reads
  obtain ⟨c, y, rfl⟩ := List.exists_cons_of_ne_nil inside
  unfold parseQuantifier at reads ⊢
  rcases found : parseBounds (x ++ (q ++ after)) with ⟨read', rest⟩
  rw [found] at reads bounds
  dsimp only at reads
  split at reads
  · rename_i once
    obtain ⟨rfl, rfl⟩ := Prod.mk.inj reads
    rw [bounds inside rfl]
    exact if_pos once
  · rename_i often
    split at reads
    · obtain ⟨rfl, rfl⟩ := Prod.mk.inj reads
      rw [bounds (z := '?' :: c :: y) nofun rfl]
      exact if_neg often
    · obtain ⟨rfl, rfl⟩ := Prod.mk.inj reads
      rw [bounds (z := '+' :: c :: y) nofun rfl]
      exact if_neg often
    · rename_i question plus
      obtain ⟨rfl, rfl⟩ := Prod.mk.inj reads
      rw [bounds inside rfl]
      dsimp only
      rw [if_neg often]
      split
      · rename_i same
        obtain ⟨rfl, -⟩ := List.cons.inj same
        exact absurd rfl (question _)
      · rename_i same
        obtain ⟨rfl, -⟩ := List.cons.inj same
        exact absurd rfl (plus _)
      · rfl

theorem push_marked (quantifies : Quantifies q b) (inside : y ≠ []) {p p' : Progress} {atom : Atom}
    (pushes : p.push atom (x ++ (q ++ after)) = (p', y ++ (q ++ after))) :
    p.push atom (x ++ (q ++ '?' :: after)) = (p', y ++ (q ++ '?' :: after)) := by
  unfold Progress.push at pushes ⊢
  rcases read : parseQuantifier (x ++ (q ++ after)) with ⟨bounds, rest⟩
  rw [read] at pushes
  obtain ⟨rfl, rfl⟩ := Prod.mk.inj pushes
  rw [parseQuantifier_marked quantifies inside read]

theorem Quantifies.ne_nil (quantifies : Quantifies q b) : q ≠ [] := by
  cases quantifies <;> nofun

/-- An atom whose own text ends before the quantifier is taken in the same way. -/
theorem atom?_marked (quantifies : Quantifies q b) {p around : Progress} {c : Char} {atom : Atom}
    (takes : p.atom? c (x ++ (q ++ after)) = some (around, atom, y ++ (q ++ after))) :
    p.atom? c (x ++ (q ++ '?' :: after)) = some (around, atom, y ++ (q ++ '?' :: after)) := by
  have here {around' : Progress} {atom' : Atom}
      (takes : some (around', atom', x ++ (q ++ after)) = some (around, atom, y ++ (q ++ after))) :
      some (around', atom', x ++ (q ++ '?' :: after)) = some (around, atom, y ++ (q ++ '?' :: after)) := by
    simp only [Option.some.injEq, Prod.mk.injEq] at takes ⊢
    exact ⟨takes.1, takes.2.1, by rw [List.append_cancel_right takes.2.2]⟩
  have inhabited : q ++ after ≠ [] := List.append_ne_nil_of_left_ne_nil quantifies.ne_nil _
  unfold Progress.atom? at takes ⊢
  split at takes
  · split at takes <;> exact here takes
  · cases takes
  · cases takes
  · cases takes
  · cases takes
  · cases x with
    | nil =>
      -- the escaped character would be the first one of the quantifier
      rw [List.nil_append] at takes
      split at takes
      · rename_i escaped rest split
        simp only [Option.some.injEq, Prod.mk.injEq] at takes
        have lengths := congrArg List.length takes.2.2
        rw [split, List.length_append, List.length_cons] at lengths
        omega
      · rename_i none
        exact absurd none inhabited
    | cons escaped x =>
      simp only [List.cons_append, Option.some.injEq, Prod.mk.injEq] at takes ⊢
      exact ⟨takes.1, takes.2.1, by rw [List.append_cancel_right takes.2.2]⟩
  · simp only [Option.some.injEq, Prod.mk.injEq] at takes ⊢
    obtain ⟨rfl, rfl, behind⟩ := takes
    obtain ⟨front, same, reads⟩ := parseClass_front (x ++ (q ++ after)) (by simp [behind, inhabited])
    rw [behind, ← List.append_assoc front] at same
    obtain rfl := List.append_cancel_right same
    rw [List.append_assoc, reads]
    exact ⟨rfl, rfl, rfl⟩
  · exact here takes
  · exact here takes

theorem dropGroupMark_marked (inside : y ≠ []) (drops : dropGroupMark (x ++ (q ++ after)) = y ++ (q ++ after)) :
    dropGroupMark (x ++ (q ++ '?' :: after)) = y ++ (q ++ '?' :: after) := by
  have short {s : List Char} (behind : s <:+ q ++ after) : s ≠ y ++ (q ++ after) := by
    rintro rfl
    exact not_append_suffix inside _ behind
  have decided {z : List Char} (first : ∀ s, dropGroupMark (x ++ s) = z ++ s) :
      dropGroupMark (x ++ (q ++ '?' :: after)) = y ++ (q ++ '?' :: after) := by
    rw [first, List.append_cancel_right ((first _).symm.trans drops)]
  have unmarked {c : Char} (other : c ≠ '?') (s : List Char) : dropGroupMark (c :: s) = c :: s := by
    unfold dropGroupMark
    split <;> simp_all
  match x with
  | [] => exact absurd drops (short (suffix_dropGroupMark _))
  | c :: x =>
    by_cases question : c = '?'
    · subst question
      match x with
      | [] =>
        refine absurd drops (short ?_)
        show dropGroupMark ('?' :: (q ++ after)) <:+ q ++ after
        unfold dropGroupMark
        split
        · rename_i same
          rw [(List.cons.inj same).2]
          exact List.suffix_cons _ _
        · rename_i same
          exact (List.cons.inj same).2 ▸ List.suffix_rfl
        · rename_i other
          exact absurd rfl (other _)
      | d :: x =>
        by_cases colon : d = ':'
        · subst colon
          exact decided (z := x) fun _ => rfl
        · refine decided (z := d :: x) fun s => ?_
          show dropGroupMark ('?' :: d :: (x ++ s)) = d :: (x ++ s)
          unfold dropGroupMark
          split <;> simp_all
    · exact decided (z := c :: x) fun s => unmarked question _

theorem step_marked (quantifies : Quantifies q b) (inside : y ≠ []) {p p' : Progress} {c : Char}
    (steps : p.step c (x ++ (q ++ after)) = (p', y ++ (q ++ after))) :
    p.step c (x ++ (q ++ '?' :: after)) = (p', y ++ (q ++ '?' :: after)) := by
  cases takes : p.atom? c (x ++ (q ++ after)) with
  | some taken =>
    obtain ⟨around, atom, rest⟩ := taken
    rw [Progress.step_of_atom? takes] at steps
    have front := suffix_push around atom rest
    rw [steps] at front
    obtain ⟨z, rfl⟩ := front
    dsimp only at takes steps
    rw [← List.append_assoc z] at takes steps
    rw [Progress.step_of_atom? (atom?_marked quantifies takes)]
    exact push_marked quantifies inside steps
  | none =>
    have skipped {p : Progress} (skips : (p, x ++ (q ++ after)) = (p', y ++ (q ++ after))) :
        (p, x ++ (q ++ '?' :: after)) = (p', y ++ (q ++ '?' :: after)) := by
      obtain ⟨rfl, same⟩ := Prod.mk.inj skips
      rw [List.append_cancel_right same]
    unfold Progress.atom? at takes
    split at takes
    · split at takes <;> cases takes
    · exact skipped steps
    · exact skipped steps
    · exact skipped steps
    · obtain ⟨rfl, drops⟩ := Prod.mk.inj steps
      exact congrArg (Prod.mk _) (dropGroupMark_marked inside drops)
    · split at takes <;> cases takes
    · cases takes
    · cases takes
    · cases takes

theorem Gets.marked (quantifies : Quantifies q b) (inside : y ≠ []) {p p' : Progress}
    (gets : Gets p (x ++ (q ++ after)) p' (y ++ (q ++ after))) :
    Gets p (x ++ (q ++ '?' :: after)) p' (y ++ (q ++ '?' :: after)) := by
  generalize whole : x ++ (q ++ after) = s at gets
  generalize left : y ++ (q ++ after) = s' at gets
  induction gets generalizing x with
  | refl p s =>
    rw [List.append_cancel_right (whole.trans left.symm)]
    exact .refl _ _
  | @step p p' p'' c s s' s'' steps gets ih =>
    have behind := gets.suffix
    have front := suffix_step p c s
    rw [← left] at behind
    rw [steps] at front
    obtain ⟨z, rfl⟩ := behind
    cases x with
    | nil =>
      have behind : y ++ (q ++ after) <:+ s := (List.suffix_append z _).trans front
      exact absurd (behind.trans (whole ▸ List.suffix_cons c s)) (not_append_suffix inside _)
    | cons d x =>
      obtain ⟨rfl, rfl⟩ := List.cons.inj whole
      rw [← List.append_assoc z] at steps
      exact .step (step_marked quantifies (by simp [inside]) steps) (ih (List.append_assoc ..) left)

end

/-! ### The rest of a text -/

namespace Progress

/-- What is read of a pattern of which `s` is left. -/
def readAll (p : Progress) (s : List Char) : List (List (Piece Atom)) := (run s.length p s).finish

theorem run_cons (fuel : Nat) (p : Progress) (c : Char) (s : List Char) :
    run (fuel + 1) p (c :: s) = run fuel (p.step c s).1 (p.step c s).2 := rfl

theorem run_of_enough {fuel fuel' : Nat} (p : Progress) {s : List Char} (enough : s.length ≤ fuel)
    (enough' : s.length ≤ fuel') : run fuel p s = run fuel' p s := by
  induction fuel generalizing fuel' p s with
  | zero =>
    obtain rfl := List.length_eq_zero_iff.mp (Nat.le_zero.mp enough)
    cases fuel' <;> rfl
  | succ fuel ih =>
    cases s with
    | nil => cases fuel' <;> rfl
    | cons c s =>
      have shorter := (suffix_step p c s).length_le
      rw [List.length_cons] at enough enough'
      obtain ⟨fuel', rfl⟩ := Nat.exists_eq_add_of_le' (Nat.le_trans (Nat.succ_pos _) enough')
      rw [run_cons, run_cons]
      exact ih _ (by omega) (by omega)

theorem readAll_cons (p : Progress) (c : Char) (s : List Char) :
    p.readAll (c :: s) = (p.step c s).1.readAll (p.step c s).2 := by
  rw [readAll, List.length_cons, run_cons, readAll,
    run_of_enough _ (suffix_step p c s).length_le (Nat.le_refl _)]

/-- The reader with one more piece in the alternative that it reads. -/
def add (p : Progress) (piece : Piece Atom) : Progress :=
  { p with here := { p.here with current := piece :: p.here.current } }

theorem push_eq (p : Progress) (atom : Atom) (s : List Char) :
    p.push atom s = (p.add ((parseQuantifier s).1.piece atom), (parseQuantifier s).2) := rfl

end Progress

theorem Gets.readAll_eq {p p' : Progress} {s s' : List Char} (gets : Gets p s p' s') : p.readAll s = p'.readAll s' := by
  induction gets with
  | refl => rfl
  | step steps _ ih => rw [Progress.readAll_cons, steps, ih]

theorem parse_eq_readAll (s : List Char) : parse (String.ofList s) = Progress.readAll ⟨[], ⟨[], []⟩⟩ s := by
  rw [parse, String.toList_ofList, String.length_ofList]
  rfl

/-! ### What was read once stays

A finished pattern begins, on every level that is open, with what was read so far. So two readers that differ in one
piece differ in what they have read in the end, however they go on. -/

def Branches.Starts (here : Branches) (whole : List (List (Piece Atom))) : Prop :=
  ∃ more others, whole = here.finished.reverse ++ (here.current.reverse ++ more) :: others

def Starts : List Branches → Branches → List (List (Piece Atom)) → Prop
  | [], here, whole => here.Starts whole
  | around :: outer, here, whole => ∃ group b, here.Starts group ∧
    Starts outer { around with current := Bounds.piece b (.group group) :: around.current } whole

theorem Branches.Starts.unique {finished : List (List (Piece Atom))} {current : List (Piece Atom)}
    {piece piece' : Piece Atom} {whole : List (List (Piece Atom))}
    (starts : Branches.Starts ⟨finished, piece :: current⟩ whole)
    (starts' : Branches.Starts ⟨finished, piece' :: current⟩ whole) : piece = piece' := by
  obtain ⟨more, others, rfl⟩ := starts
  obtain ⟨more', others', same⟩ := starts'
  simp at same
  exact same.1.1

namespace Starts

variable {outer : List Branches} {here around : Branches} {whole : List (List (Piece Atom))} {piece piece' : Piece Atom}

theorem unique (starts : Starts outer { here with current := piece :: here.current } whole)
    (starts' : Starts outer { here with current := piece' :: here.current } whole) : piece = piece' := by
  induction outer generalizing here piece piece' with
  | nil => exact Branches.Starts.unique starts starts'
  | cons around outer ih =>
    obtain ⟨group, b, starts, above⟩ := starts
    obtain ⟨group', b', starts', above'⟩ := starts'
    have same : Bounds.piece b (.group group) = Bounds.piece b' (.group group') := ih above above'
    simp only [Bounds.piece, Piece.mk.injEq, Atom.group.injEq] at same
    rw [← same.1] at starts'
    exact starts.unique starts'

theorem of_add (starts : Starts outer { here with current := piece :: here.current } whole) : Starts outer here whole := by
  have first {whole : List (List (Piece Atom))}
      (starts : Branches.Starts { here with current := piece :: here.current } whole) : here.Starts whole := by
    obtain ⟨more, others, rfl⟩ := starts
    exact ⟨piece :: more, others, by simp⟩
  cases outer with
  | nil => exact first starts
  | cons around outer =>
    obtain ⟨group, b, starts, above⟩ := starts
    exact ⟨group, b, first starts, above⟩

theorem of_bar (starts : Starts outer ⟨here.current.reverse :: here.finished, []⟩ whole) : Starts outer here whole := by
  have first {whole : List (List (Piece Atom))}
      (starts : Branches.Starts ⟨here.current.reverse :: here.finished, []⟩ whole) : here.Starts whole := by
    obtain ⟨more, others, rfl⟩ := starts
    exact ⟨[], more :: others, by simp⟩
  cases outer with
  | nil => exact first starts
  | cons around outer =>
    obtain ⟨group, b, starts, above⟩ := starts
    exact ⟨group, b, first starts, above⟩

theorem of_open (starts : Starts (here :: outer) ⟨[], []⟩ whole) : Starts outer here whole := by
  obtain ⟨group, b, -, above⟩ := starts
  exact above.of_add

theorem of_close {b : Bounds}
    (starts : Starts outer { around with current := b.piece (.group here.toList) :: around.current } whole) :
    Starts (around :: outer) here whole :=
  ⟨here.toList, b, ⟨[], [], by simp [Branches.toList]⟩, starts⟩

theorem of_push {p : Progress} {atom : Atom} {s : List Char} (starts : Starts (p.push atom s).1.outer (p.push atom s).1.here whole) :
    Starts p.outer p.here whole := starts.of_add

theorem of_step {p : Progress} {c : Char} {s : List Char}
    (starts : Starts (p.step c s).1.outer (p.step c s).1.here whole) : Starts p.outer p.here whole := by
  cases takes : p.atom? c s with
  | some taken =>
    obtain ⟨around', atom, rest⟩ := taken
    rw [Progress.step_of_atom? takes] at starts
    -- a group is put where it was opened, and all else where the reader is
    rcases Progress.atom?_eq_some takes with rfl | ⟨outer, levels, rfl, rfl⟩
    · exact starts.of_push
    · rw [levels]
      exact of_close starts
  | none =>
    unfold Progress.atom? at takes
    split at takes
    · split at takes <;> cases takes
    · exact of_bar starts
    · exact starts
    · exact starts
    · exact of_open starts
    · split at takes <;> cases takes
    · cases takes
    · cases takes
    · cases takes

theorem finish (p : Progress) : Starts p.outer p.here p.finish := by
  obtain ⟨outer, here⟩ := p
  unfold Progress.finish
  dsimp only
  induction outer generalizing here with
  | nil => exact ⟨[], [], by simp [Progress.finish.go, Branches.toList]⟩
  | cons around outer ih => exact of_close (b := .once) (ih _)

theorem run (fuel : Nat) (p : Progress) (s : List Char) : Starts p.outer p.here (p.run fuel s).finish := by
  induction fuel generalizing p s with
  | zero => exact finish p
  | succ fuel ih =>
    cases s with
    | nil => exact finish p
    | cons c s => exact of_step (ih _ _)

theorem readAll (p : Progress) (s : List Char) : Starts p.outer p.here (p.readAll s) := run _ p s

end Starts

/-! ### What a text adds

How much larger a pattern becomes by a text does not depend on what was read before. -/

theorem sizeOf_append {α : Type} [SizeOf α] (s t : List α) : sizeOf (s ++ t) + 1 = sizeOf s + sizeOf t := by
  induction s with
  | nil => simp; omega
  | cons a s ih => simp only [List.cons_append, List.cons.sizeOf_spec]; omega

theorem sizeOf_reverse {α : Type} [SizeOf α] (s : List α) : sizeOf s.reverse = sizeOf s := by
  induction s with
  | nil => rfl
  | cons a s ih =>
    have split := sizeOf_append s.reverse [a]
    simp only [List.reverse_cons, List.cons.sizeOf_spec, List.nil.sizeOf_spec] at split ⊢
    omega

noncomputable def Branches.bulk (b : Branches) : Nat := sizeOf b.finished + sizeOf b.current

theorem Branches.sizeOf_toList (b : Branches) : sizeOf b.toList = b.bulk + 1 := by
  rw [toList, sizeOf_reverse, List.cons.sizeOf_spec, sizeOf_reverse, bulk]
  omega

namespace Progress

noncomputable def bulk (p : Progress) : Nat := p.outer.foldr (fun around more => around.bulk + more) 0 + p.here.bulk

/-- The readers have the same number of groups open, and the first has read `more`. -/
def Ahead (more : Nat) (p p' : Progress) : Prop := p.outer.length = p'.outer.length ∧ p.bulk = p'.bulk + more

theorem ahead_add (p : Progress) (piece : Piece Atom) : Ahead (sizeOf piece + 1) (p.add piece) p := by
  refine ⟨rfl, ?_⟩
  simp only [bulk, add, Branches.bulk, List.cons.sizeOf_spec]
  omega

namespace Ahead

variable {p p' : Progress} {more : Nat}

theorem add (ahead : Ahead more p p') (piece : Piece Atom) : Ahead more (p.add piece) (p'.add piece) := by
  obtain ⟨depth, size⟩ := ahead
  refine ⟨depth, ?_⟩
  simp only [bulk, Progress.add, Branches.bulk, List.cons.sizeOf_spec] at size ⊢
  omega

/-- Groups that are closed take what was read in them along. -/
theorem close {around around' here here' : Branches} {outer outer' : List Branches} (b : Bounds)
    (ahead : Ahead more ⟨around :: outer, here⟩ ⟨around' :: outer', here'⟩) :
    Ahead more (Progress.add ⟨outer, around⟩ (b.piece (.group here.toList)))
      (Progress.add ⟨outer', around'⟩ (b.piece (.group here'.toList))) := by
  obtain ⟨depth, size⟩ := ahead
  refine ⟨Nat.succ.inj depth, ?_⟩
  simp only [bulk, Progress.add, Branches.bulk, Bounds.piece, List.cons.sizeOf_spec, Piece.mk.sizeOf_spec,
    Atom.group.sizeOf_spec, Branches.sizeOf_toList, List.foldr_cons] at size ⊢
  omega

theorem step (ahead : Ahead more p p') (c : Char) (s : List Char) :
    Ahead more (p.step c s).1 (p'.step c s).1 ∧ (p.step c s).2 = (p'.step c s).2 := by
  unfold Progress.step
  split
  · obtain ⟨outer, here⟩ := p
    obtain ⟨outer', here'⟩ := p'
    match outer, outer' with
    | [], [] => exact ⟨ahead.add _, rfl⟩
    | around :: outer, around' :: outer' => exact ⟨ahead.close _, rfl⟩
    | [], _ :: _ => cases ahead.1
    | _ :: _, [] => cases ahead.1
  · obtain ⟨depth, size⟩ := ahead
    refine ⟨⟨depth, ?_⟩, rfl⟩
    simp only [bulk, Branches.bulk, List.cons.sizeOf_spec, sizeOf_reverse, List.nil.sizeOf_spec] at size ⊢
    omega
  · exact ⟨ahead, rfl⟩
  · exact ⟨ahead, rfl⟩
  · split <;> exact ⟨ahead.add _, rfl⟩
  · exact ⟨ahead.add _, rfl⟩
  · obtain ⟨depth, size⟩ := ahead
    refine ⟨⟨congrArg (· + 1) depth, ?_⟩, rfl⟩
    simp only [bulk, List.foldr_cons] at size ⊢
    omega
  · exact ⟨ahead.add _, rfl⟩
  · exact ⟨ahead.add _, rfl⟩

theorem finish (ahead : Ahead more p p') : sizeOf p.finish = sizeOf p'.finish + more := by
  obtain ⟨outer, here⟩ := p
  obtain ⟨outer', here'⟩ := p'
  unfold Progress.finish
  dsimp only
  induction outer generalizing outer' here here' with
  | nil =>
    obtain ⟨depth, size⟩ := ahead
    obtain rfl := List.length_eq_zero_iff.mp depth.symm
    simp only [bulk, List.foldr_nil, Nat.zero_add] at size
    simp only [finish.go, Branches.sizeOf_toList]
    omega
  | cons around outer ih =>
    cases outer' with
    | nil => cases ahead.1
    | cons around' outer' => exact ih _ outer' _ (ahead.close .once)

theorem run (ahead : Ahead more p p') (fuel : Nat) (s : List Char) :
    sizeOf (p.run fuel s).finish = sizeOf (p'.run fuel s).finish + more := by
  induction fuel generalizing p p' s with
  | zero => exact ahead.finish
  | succ fuel ih =>
    cases s with
    | nil => exact ahead.finish
    | cons c s =>
      obtain ⟨ahead, same⟩ := ahead.step c s
      rw [run_cons, run_cons, same]
      exact ih ahead _

end Ahead

end Progress

/-! ### The mark as a suffix -/

/-- No question mark and no plus sign stand here, which would be suffixes themselves. -/
def Bare (s : List Char) : Prop := ∀ c ∈ s.head?, c ≠ '?' ∧ c ≠ '+'

/-- The text `lead` ends with an atom when `s` follows: the reader of the whole gets to that atom and takes it, and then
looks for its quantifier in `s`. -/
def EndsWithAtom (lead s : List Char) : Prop :=
  ∃ before c own p around atom, lead = before ++ c :: own ∧
    Gets ⟨[], ⟨[], []⟩⟩ (lead ++ s) p (c :: (own ++ s)) ∧ p.atom? c (own ++ s) = some (around, atom, s)

theorem parseQuantifier_of_bare {q s : List Char} {b : Bounds} (quantifies : Quantifies q b) (bare : Bare s) :
    parseQuantifier (q ++ s) = (b, s) := by
  rw [parseQuantifier, quantifies.parseBounds_append]
  dsimp only
  split
  · rfl
  · split
    · exact absurd rfl (bare '?' rfl).1
    · exact absurd rfl (bare '+' rfl).2
    · rfl

theorem parseQuantifier_mark {q s : List Char} {b : Bounds} (quantifies : Quantifies q b) :
    parseQuantifier (q ++ '?' :: s) = (b, if b = .once then '?' :: s else s) := by
  rw [parseQuantifier, quantifies.parseBounds_append]
  dsimp only
  split <;> rfl

/-- A mark that is read as a character changes the pattern, whatever follows it. -/
theorem Progress.readAll_mark_ne (p : Progress) {s : List Char} (bare : Bare s) : p.readAll ('?' :: s) ≠ p.readAll s := by
  intro same
  rw [readAll_cons] at same
  have mark : p.step '?' s = p.push (.literal '?') s := rfl
  rw [mark, push_eq] at same
  by_cases unquantified : Unquantified s
  · -- the mark is one piece more
    have alone : parseQuantifier s = (.once, s) := parseQuantifier_text none unquantified
    rw [alone] at same
    have larger := (p.ahead_add (Bounds.once.piece (.literal '?'))).run s.length s
    have whole : sizeOf ((p.add (Bounds.once.piece (.literal '?'))).readAll s) = sizeOf (p.readAll s) :=
      congrArg sizeOf same
    rw [readAll, larger, readAll] at whole
    omega
  · -- without the mark its quantifier stands for itself
    simp only [Unquantified, not_forall, not_not] at unquantified
    obtain ⟨c, first, marks⟩ := unquantified
    obtain ⟨rest, rfl⟩ := List.head?_eq_some_iff.mp first
    obtain ⟨question, plus⟩ := bare c rfl
    have itself : c ≠ '?' ∧ p.step c rest = p.push (.literal c) rest := by
      simp only [List.mem_cons, question, plus, List.not_mem_nil, or_false, false_or] at marks
      rcases marks with rfl | rfl <;> exact ⟨by decide, rfl⟩
    rw [readAll_cons, itself.2, push_eq] at same
    have marked := Starts.readAll (p.add ((parseQuantifier (c :: rest)).1.piece (.literal '?')))
      (parseQuantifier (c :: rest)).2
    have unmarked := Starts.readAll (p.add ((parseQuantifier rest).1.piece (.literal c))) (parseQuantifier rest).2
    rw [show Progress.readAll _ _ = _ from same] at marked
    have pieces := marked.unique unmarked
    simp only [Bounds.piece, Piece.mk.injEq, Atom.literal.injEq] at pieces
    exact itself.1 pieces.1.symm

theorem EndsWithAtom.readAll_eq {lead s : List Char} (ends : EndsWithAtom lead s) :
    ∃ around atom, ∀ {q : List Char} {b : Bounds} {after : List Char}, Quantifies q b → s = q ++ after → Bare after →
      parse (String.ofList (lead ++ (q ++ after))) = (Progress.add around (b.piece atom)).readAll after ∧
      parse (String.ofList (lead ++ (q ++ '?' :: after))) =
        (around.add (b.piece atom)).readAll (if b = .once then '?' :: after else after) := by
  obtain ⟨before, c, own, p, around, atom, rfl, gets, takes⟩ := ends
  refine ⟨around, atom, fun {q b after} quantifies same bare => ?_⟩
  subst same
  have gets' : Gets ⟨[], ⟨[], []⟩⟩ ((before ++ c :: own) ++ (q ++ '?' :: after)) p (c :: (own ++ (q ++ '?' :: after))) :=
    Gets.marked (y := c :: own) quantifies nofun gets
  constructor
  · rw [parse_eq_readAll, gets.readAll_eq, Progress.readAll_cons, Progress.step_of_atom? takes, Progress.push_eq,
      parseQuantifier_of_bare quantifies bare]
  · have takes' := atom?_marked (y := []) quantifies takes
    rw [parse_eq_readAll, gets'.readAll_eq, Progress.readAll_cons, Progress.step_of_atom? takes', Progress.push_eq,
      List.nil_append, parseQuantifier_mark quantifies]

/-- An atom has a quantifier, and what follows is no suffix of it already. With a question mark behind the quantifier the
pattern is read as it is without, unless the quantifier asks for exactly one repetition: then it is read differently. -/
theorem parse_suffixed_eq_iff {lead q after : List Char} {b : Bounds} (quantifies : Quantifies q b)
    (ends : EndsWithAtom lead (q ++ after)) (bare : Bare after) :
    parse (String.ofList (lead ++ (q ++ '?' :: after))) = parse (String.ofList (lead ++ (q ++ after))) ↔ b ≠ .once := by
  obtain ⟨around, atom, reads⟩ := ends.readAll_eq
  obtain ⟨plain, marked⟩ := reads quantifies rfl bare
  rw [plain, marked]
  constructor
  · rintro same rfl
    exact Progress.readAll_mark_ne _ bare same
  · intro often
    rw [if_neg often]

/-- The quantifier of a group, with alternatives and an end behind it. -/
theorem parse_suffixed_eq_iff_group : Quantifies "\x7b2,3\x7d".toList ⟨2, 3, false⟩ ∧ Bare "z$".toList ∧
    parse "(x|y+)\x7b2,3\x7d?z$" = parse "(x|y+)\x7b2,3\x7dz$" := by
  have two : readCount ['2'] = some 2 := by decide +kernel
  have three : readCount ['3'] = some 3 := by decide +kernel
  have quantifies : Quantifies "\x7b2,3\x7d".toList ⟨2, 3, false⟩ := Quantifies.between two three
  have bare : Bare "z$".toList := by
    rintro _ ⟨⟩
    exact ⟨by decide, by decide⟩
  have ends : EndsWithAtom "(x|y+)".toList ("\x7b2,3\x7d".toList ++ "z$".toList) :=
    ⟨"(x|y+".toList, ')', [], _, _, _, rfl, .step rfl (.step rfl (.step rfl (.step rfl (.refl _ _)))), rfl⟩
  exact ⟨quantifies, bare, (parse_suffixed_eq_iff quantifies ends bare).mpr (by decide)⟩

/-- Behind a quantifier for one repetition the mark is a piece of its own. -/
theorem parse_once_suffixed :
    parse "a\x7b1\x7d?" = [[⟨.literal 'a', 1, 1, false⟩, ⟨.literal '?', 1, 1, false⟩]] ∧
      parse "a\x7b1\x7d" = [[⟨.literal 'a', 1, 1, false⟩]] := by
  refine ⟨rfl, rfl⟩

end MockApi.Generation.Pattern
