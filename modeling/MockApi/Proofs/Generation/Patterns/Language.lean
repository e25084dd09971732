import MockApi.Proofs.Generation.Keeping.Patterns
import MockApi.Proofs.Generation.Patterns.Reading

/-!
# What is generated is in the language of the pattern

What is rendered from a part of a pattern is matched by the expression that the part writes, whatever stands before it
and behind it. The members that are read of a class are in the set that is meant. Of the printable characters no
others are, so those that a negated class leaves are in the complement. A whole text is therefore matched by one of
the alternatives of its pattern (`generate_matches`).
-/

namespace MockApi

/-- Copies that an expression matches are matched by its repetition. -/
theorem Regex.matches_repetition {r : Regex} {copies : List (List Char)}
    (each : ∀ copy ∈ copies, ∀ before after, Matches before r copy after) {min : Nat} {max : Option Nat}
    (least : min ≤ copies.length) (most : ∀ n, max = some n → copies.length ≤ n) (before after : Option Char) :
    Matches before (.repetition r min max) copies.flatten after := by
  induction copies generalizing min max before with
  | nil =>
    obtain rfl : min = 0 := Nat.le_zero.mp least
    exact .done
  | cons copy copies ih =>
    obtain ⟨first, others⟩ := List.forall_mem_cons.mp each
    refine .more ?_ (first _ _) (ih others (Nat.sub_le_of_le_add least) ?_ _)
    · rintro rfl
      exact Nat.not_succ_le_zero _ (most 0 rfl)
    · intro n stated
      obtain ⟨limit, rfl, rfl⟩ := Option.map_eq_some_iff.mp stated
      exact Nat.le_sub_of_add_le (most limit rfl)

namespace Generation.Pattern

theorem mem_charRange {first last c : Char} : c ∈ charRange first last ↔ first ≤ c ∧ c ≤ last := by
  have order {a b : Char} : a ≤ b ↔ a.toNat ≤ b.toNat := UInt32.le_iff_toNat_le
  rw [order, order, charRange, List.mem_filterMap]
  constructor
  · rintro ⟨i, small, same⟩
    have within := List.mem_range.mp small
    by_cases valid : (first.toNat + i).isValidChar
    · obtain rfl := Option.some.inj ((dif_pos valid).symm.trans same)
      show first.toNat ≤ first.toNat + i ∧ first.toNat + i ≤ last.toNat
      omega
    · cases (dif_neg valid).symm.trans same
  · rintro ⟨low, high⟩
    refine ⟨c.toNat - first.toNat, List.mem_range.mpr (by omega), ?_⟩
    rw [Nat.add_sub_cancel' low]
    exact dif_pos c.valid

namespace Written

open Regex (CharSet)

/-! ### Characters -/

theorem has_one (c : Char) : (CharSet.one c).has c = true := by simp [CharSet.one, CharSet.has]

theorem has_one_of_ne {c d : Char} (other : d ≠ c) : (CharSet.one c).has d = false := by
  simp only [CharSet.one, CharSet.has, Bool.and_eq_false_iff, decide_eq_false_iff_not]
  by_contra both
  push Not at both
  exact other (Char.le_antisymm both.2 both.1)

theorem escapeAtom_escapable : ∀ c ∈ escapable, escapeAtom c = .literal c := by
  simp [escapable, reserved, escapeAtom]

namespace Escape

theorem members_itself {c : Char} (h : c ∈ escapable) : escapeMembers c = [c] := by
  rw [escapeMembers, escapeAtom_escapable c h]

theorem has_of_mem (e : Escape) {c : Char} (mem : c ∈ escapeMembers e.char) : e.set.has c = true := by
  cases e with
  | among s =>
    have all : (escapeMembers s.small).all s.set.has = true := by cases s <;> decide +kernel
    exact List.all_eq_true.mp all c mem
  | newline =>
    obtain rfl := List.mem_singleton.mp mem
    exact has_one _
  | tab =>
    obtain rfl := List.mem_singleton.mp mem
    exact has_one _
  | itself d h =>
    rw [char, members_itself h] at mem
    obtain rfl := List.mem_singleton.mp mem
    exact has_one _

/-- Of the printable characters an escape means no others. -/
theorem not_has (e : Escape) {c : Char} (printable : c ∈ charRange '!' '~') (absent : c ∉ escapeMembers e.char) :
    e.set.has c = false := by
  cases e with
  | among s =>
    have all : (charRange '!' '~').all (fun c => (escapeMembers s.small).contains c || !s.set.has c) = true := by
      cases s <;> decide +kernel
    have others := List.all_eq_true.mp all c printable
    rw [Bool.or_eq_true, List.contains_iff_mem, Bool.not_eq_true'] at others
    exact others.resolve_left absent
  | newline => exact has_one_of_ne (mt List.mem_singleton.mpr absent)
  | tab => exact has_one_of_ne (mt List.mem_singleton.mpr absent)
  | itself d h =>
    rw [char, members_itself h] at absent
    exact has_one_of_ne (mt List.mem_singleton.mpr absent)

theorem members_ne_nil (e : Escape) : escapeMembers e.char ≠ [] := by
  cases e with
  | among s => cases s <;> decide
  | newline => nofun
  | tab => nofun
  | itself c h => exact members_itself h ▸ List.cons_ne_nil c []

end Escape

/-! ### Classes -/

namespace Item

theorem has_of_mem (item : Item) {c : Char} (mem : c ∈ item.members) : item.set.has c = true := by
  cases item with
  | single d plain =>
    obtain rfl := List.mem_singleton.mp mem
    exact has_one _
  | range first last hf hl ordered =>
    obtain ⟨low, high⟩ := mem_charRange.mp mem
    simp [set, CharSet.has, low, high]
  | escape e => exact e.has_of_mem mem

theorem not_has (item : Item) {c : Char} (printable : c ∈ charRange '!' '~') (absent : c ∉ item.members) :
    item.set.has c = false := by
  cases item with
  | single d plain => exact has_one_of_ne (mt List.mem_singleton.mpr absent)
  | range first last hf hl ordered =>
    have outside := mt mem_charRange.mpr absent
    simpa [set, CharSet.has] using outside
  | escape e => exact e.not_has printable absent

theorem members_ne_nil (item : Item) : item.members ≠ [] := by
  cases item with
  | single d plain => nofun
  | range first last hf hl ordered => exact List.ne_nil_of_mem (mem_charRange.mpr ⟨Char.le_refl _, ordered⟩)
  | escape e => exact e.members_ne_nil

theorem union_has (items : List Item) (c : Char) : (union items).has c = items.any (·.set.has c) := by
  induction items with
  | nil => rfl
  | cons item items ih => rw [union, CharSet.has, ih, List.any_cons]

end Item

namespace Class

theorem union_has_of_mem (items : List Item) {c : Char} (mem : c ∈ items.flatMap Item.members) :
    (Item.union items).has c = true := by
  obtain ⟨item, inside, mem⟩ := List.mem_flatMap.mp mem
  rw [Item.union_has]
  exact List.any_eq_true.mpr ⟨item, inside, item.has_of_mem mem⟩

theorem union_not_has (items : List Item) {c : Char} (printable : c ∈ charRange '!' '~')
    (absent : c ∉ items.flatMap Item.members) : (Item.union items).has c = false := by
  rw [Item.union_has, List.any_eq_false]
  intro item inside
  rw [item.not_has printable fun mem => absent (List.mem_flatMap.mpr ⟨item, inside, mem⟩)]
  nofun

theorem mem_members_of_negated {k : Class} (negated : k.negated = true) {c : Char} :
    c ∈ k.members ↔ c ∈ charRange '!' '~' ∧ c ∉ k.items.flatMap Item.members := by
  simp [members, negated]

theorem has_of_mem (k : Class) {c : Char} (mem : c ∈ k.members) : k.set.has c = true := by
  cases negated : k.negated with
  | true =>
    obtain ⟨printable, absent⟩ := (mem_members_of_negated negated).mp mem
    rw [set, negated, if_pos rfl, CharSet.has, union_not_has k.items printable absent]
    rfl
  | false =>
    rw [members, negated, if_neg Bool.false_ne_true] at mem
    rw [set, negated, if_neg Bool.false_ne_true]
    exact union_has_of_mem k.items mem

theorem members_ne_nil (k : Class) : k.members ≠ [] := by
  cases negated : k.negated with
  | true =>
    obtain ⟨c, printable, outside⟩ := k.leaves negated
    refine List.ne_nil_of_mem ((mem_members_of_negated negated).mpr ⟨printable, fun mem => ?_⟩)
    rw [union_has_of_mem k.items mem] at outside
    cases outside
  | false =>
    obtain ⟨item, items, same⟩ := List.exists_cons_of_ne_nil k.inhabited
    rw [members, negated, if_neg Bool.false_ne_true, same, List.flatMap_cons]
    exact List.append_ne_nil_of_left_ne_nil item.members_ne_nil _

end Class

/-! ### Parts of a pattern -/

theorem matches_of_class {members : List Char} {set : CharSet} (inhabited : members ≠ [])
    (each : ∀ c ∈ members, set.has c = true) {s : List Char} (rendered : (Pattern.Atom.class members).Renders s)
    (before after : Option Char) : Regex.Matches before (.set set) s after := by
  cases rendered with
  | among mem => exact .set (each _ mem)
  | amongNone => exact absurd rfl inhabited

theorem matches_of_literal {c : Char} {s : List Char} (rendered : (Pattern.Atom.literal c).Renders s)
    (before after : Option Char) : Regex.Matches before (.set (.one c)) s after := by
  cases rendered
  exact .set (has_one c)

theorem Escape.matches_of_renders (e : Escape) {s : List Char} (rendered : (escapeAtom e.char).Renders s)
    (before after : Option Char) : Regex.Matches before (.set e.set) s after := by
  cases e with
  | among k =>
    have inhabited := (Escape.among k).members_ne_nil
    have each := fun c => (Escape.among k).has_of_mem (c := c)
    cases k <;> exact matches_of_class inhabited each rendered before after
  | newline => exact matches_of_literal rendered before after
  | tab => exact matches_of_literal rendered before after
  | itself c h =>
    rw [char, escapeAtom_escapable c h] at rendered
    exact matches_of_literal rendered before after

theorem Shorthand.matches_of_renders (k : Shorthand) {s : List Char} (rendered : (escapeAtom k.capital).Renders s)
    (before after : Option Char) : Regex.Matches before (.set (.complement k.set)) s after := by
  have all : (escapeMembers k.capital).all (CharSet.complement k.set).has = true := by cases k <;> decide +kernel
  have inhabited : escapeMembers k.capital ≠ [] := by cases k <;> decide
  have each := List.all_eq_true.mp all
  cases k <;> exact matches_of_class inhabited each rendered before after

theorem rendered_of_group {alternatives : List (List (Piece Pattern.Atom))} (inhabited : alternatives ≠ [])
    {s : List Char} (rendered : (Pattern.Atom.group alternatives).Renders s) :
    ∃ pieces ∈ alternatives, Rendered pieces s := by
  cases rendered with
  | group mem rendered => exact ⟨_, mem, rendered⟩
  | groupNone => exact absurd rfl inhabited

theorem Choice.read_ne_nil (choice : Choice) : choice.read ≠ [] := by
  cases choice <;> exact List.cons_ne_nil _ _

/-- A number of copies that is read from a quantifier is one that it means. -/
theorem matches_repeated {r : Regex} {q : Option Quantifier} {atom : Pattern.Atom} {copies : List (List Char)}
    (counts : ((Quantifier.bounds q).piece atom).Counts copies.length)
    (each : ∀ copy ∈ copies, ∀ before after, Regex.Matches before r copy after) (before after : Option Char) :
    Regex.Matches before (Quantifier.repeated r q) copies.flatten after := by
  cases q with
  | none =>
    obtain ⟨copy, rfl⟩ := List.length_eq_one_iff.mp (Nat.le_antisymm (counts.most rfl) counts.least)
    rw [List.flatten_singleton]
    exact each copy List.mem_cons_self before after
  | some q =>
    refine Regex.matches_repetition each counts.least (fun n stated => ?_) before after
    have bounded : ((Quantifier.bounds (some q)).piece atom).unbounded = false := by
      show q.max.isNone = false
      rw [stated]
      rfl
    have most := counts.most bounded
    change copies.length ≤ q.max.getD _ at most
    rw [stated] at most
    exact most

-- The induction is on the parts of the pattern. It is for every character before and behind, since what stands beside
-- a copy is another copy.
mutual

theorem Atom.matches_of_renders (atom : Atom) {s : List Char} (rendered : atom.read.Renders s)
    (before after : Option Char) : Regex.Matches before atom.expression s after := by
  match atom with
  | .literal c _ => exact matches_of_literal rendered before after
  | .dot =>
    have lineless : wordChars.all (CharSet.complement (.one '\n')).has = true := by decide +kernel
    exact matches_of_class (by decide) (List.all_eq_true.mp lineless) rendered before after
  | .escape e => exact e.matches_of_renders rendered before after
  | .outside k => exact k.matches_of_renders rendered before after
  | .class k => exact matches_of_class k.members_ne_nil (fun _ => k.has_of_mem) rendered before after
  | .group _ choice =>
    obtain ⟨pieces, mem, rendered⟩ := rendered_of_group choice.read_ne_nil rendered
    exact choice.matches_of_rendered mem rendered before after

theorem Branch.matches_of_rendered (branch : Branch) {s : List Char} (rendered : Rendered branch.read s)
    (before after : Option Char) : Regex.Matches before branch.expression s after := by
  match branch with
  | .nil =>
    cases rendered
    exact .empty
  | .cons atom quantifier rest =>
    cases rendered with
    | cons counts each others =>
      refine .concat (matches_repeated counts (fun copy mem => ?_) _ _) (rest.matches_of_rendered others _ _)
      exact atom.matches_of_renders (each copy mem)

theorem Choice.matches_of_rendered (choice : Choice) {pieces : List (Piece Pattern.Atom)} (mem : pieces ∈ choice.read)
    {s : List Char} (rendered : Rendered pieces s) (before after : Option Char) :
    Regex.Matches before choice.expression s after := by
  match choice with
  | .one branch =>
    obtain rfl := List.mem_singleton.mp mem
    exact branch.matches_of_rendered rendered before after
  | .more branch rest =>
    rcases List.mem_cons.mp mem with rfl | mem
    · exact .left (branch.matches_of_rendered rendered before after)
    · exact .right (rest.matches_of_rendered mem rendered before after)

end

/-! ### Whole patterns -/

/-- An anchor holds at its end of a whole text. -/
theorem Alternative.matches_of_rendered (a : Alternative) {s : List Char} (rendered : Rendered a.branch.read s) :
    Regex.Matches none a.expression s none := by
  have start (after : Option Char) :
      Regex.Matches none (if a.start then .assertion .startText else .empty) [] after := by
    cases a.start with
    | false => exact .empty
    | true => exact .assertion rfl
  have stop (before : Option Char) :
      Regex.Matches before (if a.stop then .assertion .endText else .empty) [] none := by
    cases a.stop with
    | false => exact .empty
    | true => exact .assertion rfl
  have whole := Regex.Matches.concat (start _) (.concat (a.branch.matches_of_rendered rendered _ _) (stop _))
  rw [List.nil_append, List.append_nil] at whole
  exact whole

/-- Whatever is drawn, and whatever length is asked for, the text of a pattern is matched as a whole by one of its
alternatives. -/
theorem generate_matches {σ : Type} [Source σ] (w : Written) (min max : Nat) (source : σ) :
    ∃ a ∈ w.alternatives,
      Regex.Matches none a.expression (generate w.text min max source).1.toList none := by
  have rendered := (generate_rendered (I := Invariant.none) w.text min max source trivial).1
  rw [parse_text] at rendered
  have inhabited : w.read ≠ [] := List.cons_ne_nil _ _
  obtain ⟨pieces, mem, rendered⟩ := rendered_of_group inhabited rendered
  obtain ⟨a, inside, rfl⟩ := List.mem_map.mp mem
  exact ⟨a, inside, a.matches_of_rendered rendered⟩

end Written

end Generation.Pattern

end MockApi
