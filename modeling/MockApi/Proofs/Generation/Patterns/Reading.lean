import MockApi.Proofs.Generation.Patterns.Written
import MockApi.Proofs.Text.Parts

/-!
# Patterns are read as they are meant

The text of a pattern of the common kind is read as its alternatives (`parse_text`). The reader goes through the text
with a stack of open groups, so what is shown of each part is where it leaves the reader: with the pieces of the part
added to the group that is open, and in front of what follows.
-/

namespace MockApi.Generation.Pattern

namespace Written

/-! ### Quantifiers -/

/-- No quantifier begins here. -/
def Unquantified (s : List Char) : Prop := ∀ c ∈ s.head?, c ∉ ['?', '*', '+', '\x7b']

theorem unquantified_nil : Unquantified [] := nofun

theorem unquantified_cons {c : Char} (other : c ∉ ['?', '*', '+', '\x7b']) (s : List Char) :
    Unquantified (c :: s) := by
  rintro _ ⟨⟩
  exact other

theorem Unquantified.ne {s rest : List Char} {c : Char} (free : Unquantified s)
    (mark : c ∈ ['?', '*', '+', '\x7b']) : s ≠ c :: rest := by
  rintro rfl
  exact free c rfl mark

namespace Count

theorem not_mem (n : Count) {c : Char} (other : c ∉ digits) : c ∉ n.chars := fun mem => other (n.decimal c mem)

theorem readNat?_chars (n : Count) {limit : Nat} (small : n.value < limit) :
    Text.readNat? limit n.chars = some n.value := by
  have signless (rest : List Char) : n.chars ≠ '+' :: rest := by
    intro same
    exact n.not_mem (c := '+') (by decide) (same ▸ List.mem_cons_self)
  have plain : digits.all Char.isDigit = true := by decide
  have decimal : n.chars.all Char.isDigit = true :=
    List.all_eq_true.mpr fun c mem => List.all_eq_true.mp plain c (n.decimal c mem)
  have inhabited : n.chars.isEmpty = false := List.isEmpty_eq_false_iff.mpr n.inhabited
  unfold Text.readNat?
  split
  · rename_i rest same
    exact absurd same (signless rest)
  · dsimp only
    rw [inhabited, decimal]
    exact if_pos small

theorem trimChars_chars (n : Count) : Text.trimChars n.chars = n.chars := by
  have solid : digits.any Text.isBlank = false := by decide +kernel
  refine Text.trimChars_of_solid fun c mem => ?_
  exact Bool.eq_false_iff.mpr (List.any_eq_false.mp solid c (n.decimal c mem))

theorem readCount_chars (n : Count) : readCount n.chars = some n.value := by
  have small : n.value < 2 ^ 32 := Nat.lt_of_le_of_lt n.small (by decide)
  rw [readCount, n.trimChars_chars, n.readNat?_chars small]
  exact congrArg some (Nat.min_eq_left n.small)

end Count

theorem readBounds_exactly (n : Count) : readBounds n.chars = some ⟨n.value, n.value, false⟩ := by
  rw [readBounds, Text.splitOnce_of_not_mem (n.not_mem (by decide)), n.readCount_chars]
  rfl

theorem readBounds_atLeast (n : Count) :
    readBounds (n.chars ++ [',']) = some ⟨n.value, n.value + unboundedExtra, true⟩ := by
  rw [readBounds, Text.splitOnce_append (n.not_mem (by decide))]
  dsimp only
  rw [n.readCount_chars]
  rfl

theorem readBounds_between (n m : Count) (ordered : n.value ≤ m.value) :
    readBounds (n.chars ++ ',' :: m.chars) = some ⟨n.value, m.value, false⟩ := by
  have trimmed : (Text.trimChars m.chars).isEmpty = false := by
    rw [m.trimChars_chars]
    exact List.isEmpty_eq_false_iff.mpr m.inhabited
  rw [readBounds, Text.splitOnce_append (n.not_mem (by decide))]
  dsimp only
  rw [n.readCount_chars, m.readCount_chars, trimmed]
  exact congrArg (fun most => some (Bounds.mk n.value most false)) (Nat.max_eq_left ordered)

theorem parseBounds_braced {inner : List Char} {b : Bounds} (free : '\x7d' ∉ inner)
    (read : readBounds inner = some b) (rest : List Char) :
    parseBounds (Quantifier.chars.braced inner ++ rest) = (b, rest) := by
  have inside : ∀ c ∈ inner, decide (c ≠ '\x7d') = true := fun c mem => by
    rw [decide_eq_true_eq]
    rintro rfl
    exact free mem
  have front : (inner ++ '\x7d' :: rest).takeWhile (· ≠ '\x7d') = inner := by
    rw [List.takeWhile_append_of_pos inside, List.takeWhile_cons_of_neg (by decide), List.append_nil]
  have behind : (inner ++ '\x7d' :: rest).dropWhile (· ≠ '\x7d') = '\x7d' :: rest := by
    rw [List.dropWhile_append_of_pos inside, List.dropWhile_cons_of_neg (by decide)]
  rw [Quantifier.chars.braced, List.cons_append, List.append_assoc, List.singleton_append, parseBounds, front, read,
    behind]
  rfl

theorem parseBounds_text (q : Option Quantifier) {rest : List Char} (free : Unquantified rest) :
    parseBounds (Quantifier.text q ++ rest) = (Quantifier.bounds q, rest) := by
  cases q with
  | none =>
    show parseBounds rest = (.once, rest)
    unfold parseBounds
    split
    · exact absurd rfl (free.ne (by decide))
    · exact absurd rfl (free.ne (by decide))
    · exact absurd rfl (free.ne (by decide))
    · exact absurd rfl (free.ne (by decide))
    · rfl
  | some q =>
    cases q with
    | optional => rfl
    | star => rfl
    | plus => rfl
    | exactly n => exact parseBounds_braced (n.not_mem (by decide)) (readBounds_exactly n) rest
    | atLeast n =>
      have free : '\x7d' ∉ n.chars ++ [','] := by simp [n.not_mem (c := '\x7d') (by decide)]
      exact parseBounds_braced free (readBounds_atLeast n) rest
    | between n m ordered =>
      have free : '\x7d' ∉ n.chars ++ ',' :: m.chars := by
        simp [n.not_mem (c := '\x7d') (by decide), m.not_mem (c := '\x7d') (by decide)]
      exact parseBounds_braced free (readBounds_between n m ordered) rest

theorem parseQuantifier_text (q : Option Quantifier) {rest : List Char} (free : Unquantified rest) :
    parseQuantifier (Quantifier.text q ++ rest) = (Quantifier.bounds q, rest) := by
  rw [parseQuantifier, parseBounds_text q free]
  dsimp only
  split
  · rfl
  · split
    · exact absurd rfl (free.ne (by decide))
    · exact absurd rfl (free.ne (by decide))
    · rfl

/-! ### Classes -/

theorem classMembers_close (rest : List Char) : classMembers false (']' :: rest) = ([], rest) := by
  unfold classMembers
  -- a hyphen and one more character may follow, as they do in the fourth case
  split
  · rename_i same
    cases same
  · rename_i same
    cases same
  · rename_i same
    cases same
  · rename_i same
    obtain ⟨rfl, rfl⟩ := List.cons.inj same
    exact if_pos ⟨rfl, rfl⟩
  · rename_i same
    obtain ⟨rfl, rfl⟩ := List.cons.inj same
    exact if_pos ⟨rfl, rfl⟩

theorem classMembers_single {c : Char} {s : List Char} (plain : c ∉ reservedInside) (follow : s.head? ≠ some '-')
    (first : Bool) : classMembers first (c :: s) = (c :: (classMembers false s).1, (classMembers false s).2) := by
  have stands : ¬(c = ']' ∧ (!first) = true) := by
    rintro ⟨rfl, -⟩
    exact plain (by decide)
  rw [classMembers.eq_def]
  split
  · rename_i same
    cases same
  · rename_i same
    cases same
    exact absurd (by decide) plain
  · rename_i same
    cases same
    exact absurd (by decide) plain
  · rename_i same
    cases same
    -- with a hyphen behind it the character would begin a range
    exact absurd rfl follow
  · rename_i same
    obtain ⟨rfl, rfl⟩ := List.cons.inj same
    rw [if_neg stands]

theorem classMembers_range {first last : Char} (hf : first ∉ reservedInside) (hl : last ∉ reservedInside)
    (ordered : first ≤ last) (s : List Char) (start : Bool) :
    classMembers start (first :: '-' :: last :: s) =
      (charRange first last ++ (classMembers false s).1, (classMembers false s).2) := by
  have stands : ¬(first = ']' ∧ (!start) = true) := by
    rintro ⟨rfl, -⟩
    exact hf (by decide)
  have inner : last ≠ ']' := by
    rintro rfl
    exact hl (by decide)
  rw [classMembers.eq_def]
  split
  · rename_i same
    cases same
  · rename_i same
    cases same
  · rename_i same
    cases same
    exact absurd (by decide) hf
  · rename_i same
    cases same
    rw [if_neg stands, if_neg inner, if_pos ordered]
  · rename_i other same
    cases same
    exact absurd rfl (other _ _)

/-- An item does not begin with a hyphen. -/
theorem head?_chars_ne (items : List Item) (rest : List Char) :
    (items.flatMap Item.chars ++ ']' :: rest).head? ≠ some '-' := by
  cases items with
  | nil => nofun
  | cons item items =>
    cases item with
    | single c plain =>
      rintro ⟨⟩
      exact plain (by decide)
    | range first last hf hl ordered =>
      rintro ⟨⟩
      exact hf (by decide)
    | escape e => nofun

theorem classMembers_item (item : Item) {s : List Char} (follow : s.head? ≠ some '-') (first : Bool) :
    classMembers first (item.chars ++ s) =
      (item.members ++ (classMembers false s).1, (classMembers false s).2) := by
  cases item with
  | single c plain => exact classMembers_single plain follow first
  | range low high hf hl ordered => exact classMembers_range hf hl ordered s first
  | escape e => rfl

/-- Members are read up to the closing bracket. -/
theorem classMembers_chars (items : List Item) (rest : List Char) {first : Bool}
    (inside : items ≠ [] ∨ first = false) :
    classMembers first (items.flatMap Item.chars ++ ']' :: rest) = (items.flatMap Item.members, rest) := by
  induction items generalizing first with
  | nil =>
    obtain rfl := inside.resolve_left fun inhabited => inhabited rfl
    exact classMembers_close rest
  | cons item items ih =>
    rw [List.flatMap_cons, List.flatMap_cons, List.append_assoc,
      classMembers_item item (head?_chars_ne items rest), ih (.inr rfl)]

theorem parseClass_of_caretless {s : List Char} (caretless : s.head? ≠ some '^') :
    parseClass s = classMembers true s := by
  unfold parseClass
  split
  · exact absurd rfl caretless
  · rfl

theorem parseClass_body (k : Class) (rest : List Char) : parseClass (k.body ++ ']' :: rest) = (k.members, rest) := by
  have whole : classMembers true (k.items.flatMap Item.chars ++ ']' :: rest) = _ :=
    classMembers_chars k.items rest (.inl k.inhabited)
  rw [Class.body, Class.members]
  cases negated : k.negated with
  | true =>
    have caret (s : List Char) : parseClass ('^' :: s) =
        ((charRange '!' '~').filter (!(classMembers true s).1.contains ·), (classMembers true s).2) := rfl
    rw [if_pos rfl, if_pos rfl, List.append_assoc, List.singleton_append, caret, whole]
  | false =>
    have caretless : (k.items.flatMap Item.chars ++ ']' :: rest).head? ≠ some '^' := by
      have first := k.caretless negated
      cases chars : k.items.flatMap Item.chars with
      | nil => nofun
      | cons c more =>
        rw [chars] at first
        exact first
    rw [if_neg Bool.false_ne_true, if_neg Bool.false_ne_true, List.nil_append, parseClass_of_caretless caretless, whole]

/-! ### Steps of the reader -/

/-- With `s` in front of it the reader gets on to `s'`. What it may still do is enough for what is left. -/
def Reads (p : Progress) (s : List Char) (p' : Progress) (s' : List Char) : Prop :=
  ∀ fuel, s.length ≤ fuel → ∃ fuel', s'.length ≤ fuel' ∧ Progress.run fuel p s = Progress.run fuel' p' s'

namespace Reads

variable {p p' p'' : Progress} {s s' s'' : List Char}

theorem refl (p : Progress) (s : List Char) : Reads p s p s := fun fuel enough => ⟨fuel, enough, rfl⟩

theorem trans (first : Reads p s p' s') (then_ : Reads p' s' p'' s'') : Reads p s p'' s'' := by
  intro fuel enough
  obtain ⟨middle, enough, same⟩ := first fuel enough
  obtain ⟨last, enough, same'⟩ := then_ middle enough
  exact ⟨last, enough, same.trans same'⟩

theorem step {c : Char} (steps : p.step c s = (p', s')) (shorter : s'.length ≤ s.length) :
    Reads p (c :: s) p' s' := by
  intro fuel enough
  obtain ⟨fuel, rfl⟩ := Nat.exists_eq_add_of_le' (Nat.le_trans (Nat.succ_pos s.length) enough)
  refine ⟨fuel, Nat.le_trans shorter (Nat.le_of_succ_le_succ enough), ?_⟩
  rw [Progress.run, steps]

/-- At the end of the text the reader is finished. -/
theorem run_eq (reads : Reads p s p' []) : Progress.run s.length p s = p' := by
  obtain ⟨fuel, -, same⟩ := reads s.length (Nat.le_refl _)
  rw [same]
  cases fuel <;> rfl

end Reads

/-- The reader with more pieces in the alternative that it reads. -/
def extended (p : Progress) (pieces : List (Piece Pattern.Atom)) : Progress :=
  { p with here := { p.here with current := pieces.reverse ++ p.here.current } }

theorem extended_cons (p : Progress) (piece : Piece Pattern.Atom) (pieces : List (Piece Pattern.Atom)) :
    extended p (piece :: pieces) = extended (extended p [piece]) pieces := by
  simp [extended]

theorem push_text (p : Progress) (atom : Pattern.Atom) (q : Option Quantifier) {rest : List Char}
    (free : Unquantified rest) :
    p.push atom (Quantifier.text q ++ rest) = (extended p [(Quantifier.bounds q).piece atom], rest) := by
  rw [Progress.push, parseQuantifier_text q free]
  rfl

theorem step_literal {c : Char} (plain : c ∉ reserved) (p : Progress) (rest : List Char) :
    p.step c rest = p.push (.literal c) rest := by
  unfold Progress.step
  split
  all_goals first | rfl | exact absurd (by decide) plain

theorem step_class (k : Class) (p : Progress) (rest : List Char) :
    p.step '[' (k.body ++ ']' :: rest) = p.push (.class k.members) rest := by
  show p.push (.class (parseClass (k.body ++ ']' :: rest)).1) (parseClass (k.body ++ ']' :: rest)).2 = _
  rw [parseClass_body]

theorem dropGroupMark_of_unquantified {s : List Char} (free : Unquantified s) : dropGroupMark s = s := by
  unfold dropGroupMark
  split
  · exact absurd rfl (free.ne (by decide))
  · exact absurd rfl (free.ne (by decide))
  · rfl

theorem step_open (capturing : Bool) (p : Progress) {s : List Char} (free : Unquantified s) :
    p.step '(' ((if capturing then [] else ['?', ':']) ++ s) = (⟨p.here :: p.outer, ⟨[], []⟩⟩, s) := by
  show (_, dropGroupMark _) = _
  cases capturing with
  | false => rfl
  | true => rw [if_pos rfl, List.nil_append, dropGroupMark_of_unquantified free]

/-- The bracket that closes a group pushes it where it was opened. -/
theorem step_close (around : Branches) (outer : List Branches) (here : Branches) (rest : List Char) :
    Progress.step ⟨around :: outer, here⟩ ')' rest = Progress.push ⟨outer, around⟩ (.group here.toList) rest := rfl

/-! ### Parts of the text -/

/-- A step that pushes an atom also reads the quantifier behind it. -/
theorem reads_of_push {p around : Progress} {c : Char} {s rest : List Char} {atom : Pattern.Atom}
    {q : Option Quantifier} (free : Unquantified rest)
    (steps : p.step c s = around.push atom (Quantifier.text q ++ rest)) (behind : Quantifier.text q ++ rest <:+ s) :
    Reads p (c :: s) (extended around [(Quantifier.bounds q).piece atom]) rest := by
  refine .step (steps.trans (push_text around atom q free)) ?_
  have whole := behind.length_le
  rw [List.length_append] at whole
  omega

theorem unquantified_atom (atom : Atom) (s : List Char) : Unquantified (atom.chars ++ s) := by
  cases atom with
  | literal c plain =>
    have marks : ['?', '*', '+', '\x7b'] ⊆ reserved := by simp [reserved]
    exact unquantified_cons (mt (marks ·) plain) _
  | dot => exact unquantified_cons (by decide) _
  | escape e => exact unquantified_cons (by decide) _
  | outside k => exact unquantified_cons (by decide) _
  | «class» k => exact unquantified_cons (by decide) _
  | group capturing choice => exact unquantified_cons (by decide) _

theorem unquantified_branch (branch : Branch) {s : List Char} (free : Unquantified s) :
    Unquantified (branch.chars ++ s) := by
  cases branch with
  | nil => exact free
  | cons atom quantifier rest =>
    rw [Branch.chars, List.append_assoc, List.append_assoc]
    exact unquantified_atom atom _

theorem unquantified_choice (choice : Choice) {s : List Char} (free : Unquantified s) :
    Unquantified (choice.chars ++ s) := by
  cases choice with
  | one branch => exact unquantified_branch branch free
  | more branch rest =>
    rw [Choice.chars, List.append_assoc]
    exact unquantified_branch branch (unquantified_cons (by decide) _)

-- The induction is on the parts of the pattern. What follows a part begins with no quantifier, so that the one behind
-- its last piece is read as it is written.
mutual

theorem Atom.reads (atom : Atom) (q : Option Quantifier) (p : Progress) {rest : List Char}
    (free : Unquantified rest) :
    Reads p (atom.chars ++ (Quantifier.text q ++ rest)) (extended p [(Quantifier.bounds q).piece atom.read]) rest := by
  match atom with
  | .literal c plain => exact reads_of_push free (step_literal plain p _) List.suffix_rfl
  | .dot => exact reads_of_push free rfl List.suffix_rfl
  | .escape e => exact reads_of_push free rfl (List.suffix_cons _ _)
  | .outside s => exact reads_of_push free rfl (List.suffix_cons _ _)
  | .class k =>
    rw [Atom.chars, List.cons_append, List.append_assoc, List.singleton_append]
    exact reads_of_push free (step_class k p _) ((List.suffix_cons ']' _).trans (List.suffix_append k.body _))
  | .group capturing choice =>
    have closing := unquantified_cons (c := ')') (by decide) (Quantifier.text q ++ rest)
    obtain ⟨here, same, reads⟩ := Choice.reads choice (p.here :: p.outer) [] closing
    rw [Atom.chars, List.cons_append, List.append_assoc, List.append_assoc, List.singleton_append]
    refine .trans (.step (step_open capturing p (unquantified_choice choice closing)) ?_) (reads.trans ?_)
    · exact (List.suffix_append _ _).length_le
    · rw [Atom.read, ← List.nil_append choice.read, ← List.reverse_nil, ← same]
      exact reads_of_push free (step_close p.here p.outer here _) List.suffix_rfl

theorem Branch.reads (branch : Branch) (p : Progress) {rest : List Char} (free : Unquantified rest) :
    Reads p (branch.chars ++ rest) (extended p branch.read) rest := by
  match branch with
  | .nil => exact .refl p rest
  | .cons atom quantifier others =>
    rw [Branch.chars, List.append_assoc, List.append_assoc, Branch.read, extended_cons]
    exact (Atom.reads atom quantifier p (unquantified_branch others free)).trans (Branch.reads others _ free)

theorem Choice.reads (choice : Choice) (outer : List Branches) (finished : List (List (Piece Pattern.Atom)))
    {rest : List Char} (free : Unquantified rest) :
    ∃ here : Branches, here.toList = finished.reverse ++ choice.read ∧
      Reads ⟨outer, ⟨finished, []⟩⟩ (choice.chars ++ rest) ⟨outer, here⟩ rest := by
  match choice with
  | .one branch =>
    refine ⟨⟨finished, branch.read.reverse⟩, ?_, ?_⟩
    · rw [Branches.toList, List.reverse_reverse, List.reverse_cons, Choice.read]
    · have reads := Branch.reads branch ⟨outer, ⟨finished, []⟩⟩ free
      rw [extended, List.append_nil] at reads
      exact reads
  | .more branch others =>
    obtain ⟨here, same, reads⟩ := Choice.reads others outer (branch.read :: finished) free
    refine ⟨here, ?_, ?_⟩
    · rw [same, List.reverse_cons, List.append_assoc, List.singleton_append, Choice.read]
    · have first := Branch.reads branch ⟨outer, ⟨finished, []⟩⟩
        (unquantified_cons (c := '|') (by decide) (others.chars ++ rest))
      rw [extended, List.append_nil] at first
      rw [Choice.chars, List.append_assoc, List.cons_append]
      refine first.trans (.trans (.step ?_ (Nat.le_refl _)) reads)
      show (_, _) = (_, _)
      rw [List.reverse_reverse]

end

/-! ### The whole text -/

/-- Anchors are passed over. -/
theorem reads_anchor {c : Char} (anchor : c = '^' ∨ c = '$') (present : Bool) (p : Progress) (s : List Char) :
    Reads p ((if present then [c] else []) ++ s) p s := by
  cases present with
  | false => exact .refl p s
  | true =>
    refine .step ?_ (Nat.le_refl _)
    rcases anchor with rfl | rfl <;> rfl

theorem Alternative.reads (a : Alternative) (finished : List (List (Piece Pattern.Atom))) {rest : List Char}
    (free : Unquantified rest) :
    Reads ⟨[], ⟨finished, []⟩⟩ (a.chars ++ rest) ⟨[], ⟨finished, a.branch.read.reverse⟩⟩ rest := by
  have stopped : Unquantified ((if a.stop then ['$'] else []) ++ rest) := by
    cases a.stop with
    | false => exact free
    | true => exact unquantified_cons (by decide) _
  have branch := Branch.reads a.branch ⟨[], ⟨finished, []⟩⟩ stopped
  rw [extended, List.append_nil] at branch
  rw [Alternative.chars, List.append_assoc, List.append_assoc]
  exact (reads_anchor (.inl rfl) a.start _ _).trans (branch.trans (reads_anchor (.inr rfl) a.stop _ _))

theorem unquantified_others (others : List Alternative) : Unquantified (others.flatMap fun a => '|' :: a.chars) := by
  cases others with
  | nil => exact unquantified_nil
  | cons a others => exact unquantified_cons (by decide) _

theorem others_read (others : List Alternative) (finished : List (List (Piece Pattern.Atom)))
    (current : List (Piece Pattern.Atom)) :
    ∃ here : Branches, here.toList = finished.reverse ++ current.reverse :: others.map (·.branch.read) ∧
      Reads ⟨[], ⟨finished, current⟩⟩ (others.flatMap fun a => '|' :: a.chars) ⟨[], here⟩ [] := by
  induction others generalizing finished current with
  | nil =>
    refine ⟨⟨finished, current⟩, ?_, .refl _ _⟩
    rw [Branches.toList, List.reverse_cons, List.map_nil]
  | cons a others ih =>
    obtain ⟨here, same, reads⟩ := ih (current.reverse :: finished) a.branch.read.reverse
    refine ⟨here, ?_, ?_⟩
    · rw [same, List.reverse_cons, List.reverse_reverse, List.append_assoc, List.singleton_append, List.map_cons]
    · rw [List.flatMap_cons, List.cons_append]
      have bar : Progress.step ⟨[], ⟨finished, current⟩⟩ '|' (a.chars ++ others.flatMap fun a => '|' :: a.chars) =
          (⟨[], ⟨current.reverse :: finished, []⟩⟩, a.chars ++ others.flatMap fun a => '|' :: a.chars) := rfl
      exact (Reads.step bar (Nat.le_refl _)).trans ((a.reads _ (unquantified_others others)).trans reads)

/-- A pattern of the common kind is read as its alternatives. -/
theorem parse_text (w : Written) : parse w.text = w.read := by
  obtain ⟨here, same, others⟩ := others_read w.others [] w.first.branch.read.reverse
  have whole := ((w.first.reads [] (unquantified_others w.others)).trans others).run_eq
  rw [parse, text, String.toList_ofList, String.length_ofList, chars, whole]
  show here.toList = _
  rw [same, List.reverse_reverse]
  rfl

example :
    let version : Branch := .cons (.literal 'v' (by decide)) none (.cons (.escape (.among .digit)) (some .plus) .nil)
    let w : Written := ⟨⟨true, version, true⟩, []⟩
    w.text = "^v\\d+$" := by decide

end Written

end MockApi.Generation.Pattern
