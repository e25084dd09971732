import Mathlib.Logic.Function.Iterate
import MockApi.Generation.Uses
import MockApi.Proofs.Engine.Twins
import MockApi.Proofs.Generation.Yields

/-!
# Compilers with one seed

Two compilers with one seed give the same results after equally many compilations, whatever these
compiled and whether they succeeded (`after_reproduces`). Of its uses a compiler keeps only how many words
they took, besides the schemas that it remembers, and no compilation looks at those. The values of a run
of compilations begin with the values of a shorter run.
-/

namespace MockApi

/-! ### Repeated generations -/

namespace Generation.Generate

variable {σ α β : Type} {g : Generate σ α} {next : α → Generate σ β} {source : σ}

theorem bind_eq_ok {result : β} (succeeds : ((g >>= next) source).1 = .ok result) :
    ∃ value after, g source = (.ok value, after) ∧ (next value after).1 = .ok result := by
  rcases run : g source with ⟨fault | value, after⟩
  · rw [bind_of_error run] at succeeds
    cases succeeds
  · rw [bind_of_ok run] at succeeds
    exact ⟨value, after, rfl, succeeds⟩

/-- The values of fewer repetitions are the first values of more. -/
theorem take_of_replicate {n k : Nat} {values : List α} (le : k ≤ n)
    (many : (((List.replicate n ()).mapM fun _ => g) source).1 = .ok values) :
    values.length = n ∧ (((List.replicate k ()).mapM fun _ => g) source).1 = .ok (values.take k) := by
  induction n generalizing k source values with
  | zero =>
    obtain rfl : k = 0 := Nat.le_zero.mp le
    cases many
    exact ⟨rfl, rfl⟩
  | succ n ih =>
    rw [List.replicate_succ, List.mapM_cons] at many
    obtain ⟨value, middle, first, many⟩ := bind_eq_ok many
    obtain ⟨rest, last, others, same⟩ := bind_eq_ok many
    obtain rfl : value :: rest = values := Except.ok.inj same
    have all (j : Nat) (fewer : j ≤ n) := ih (k := j) fewer (congrArg Prod.fst others)
    refine ⟨congrArg (· + 1) (all n (Nat.le_refl n)).1, ?_⟩
    cases k with
    | zero => rfl
    | succ k =>
      have shorter := (all k (Nat.le_of_succ_le_succ le)).2
      rcases run : ((List.replicate k ()).mapM fun _ => g) middle with ⟨result, after⟩
      rw [run] at shorter
      obtain rfl : result = .ok (rest.take k) := shorter
      rw [List.replicate_succ, List.mapM_cons, bind_of_ok first, bind_of_ok run]
      rfl

end Generation.Generate

/-! ### What a use leaves behind -/

namespace Compiler

variable {c c' : Compiler}

/-- The source of seeds, a word later. -/
def nextParent (parent : Cipher) : Cipher := (Source.next64 parent).2

theorem options_apply (c : Compiler) (use_ : Use) : (c.apply use_).options = c.options := by
  cases use_ <;> rfl

theorem parent_apply (c : Compiler) (use_ : Use) :
    (c.apply use_).parent = if use_.takesWord then nextParent c.parent else c.parent := by
  cases use_ <;> rfl

theorem options_after (c : Compiler) (uses : List Use) : (c.after uses).options = c.options := by
  induction uses generalizing c with
  | nil => rfl
  | cons first uses ih => exact (ih (c.apply first)).trans (c.options_apply first)

/-- Each use takes one word or none, whatever it does with the source that the word seeds. -/
theorem parent_after (c : Compiler) (uses : List Use) :
    (c.after uses).parent = nextParent^[uses.countP Use.takesWord] c.parent := by
  induction uses generalizing c with
  | nil => rfl
  | cons first uses ih =>
    have later : (c.after (first :: uses)).parent = ((c.apply first).after uses).parent := rfl
    rw [later, ih, parent_apply, List.countP_cons]
    cases first.takesWord
    · simp
    · simp [Function.iterate_succ_apply]

/-- Compilers with the same options and seeds are alike for all but the schemas that they remember. -/
theorem Twins.after {uses uses' : List Use} (twins : c.Twins c')
    (equal : uses.countP Use.takesWord = uses'.countP Use.takesWord) :
    (c.after uses).Twins (c'.after uses') where
  options := by rw [options_after, options_after, twins.options]
  parent := by rw [parent_after, parent_after, twins.parent, equal]

theorem twins_ofConfig (generation : Config.Generation) (seeded : generation.seed.isSome)
    (caching caching' : Config.Caching) (entropy entropy' : UInt64) :
    (ofConfig generation caching entropy).Twins (ofConfig generation caching' entropy') where
  options := rfl
  parent := by
    obtain ⟨seed, given⟩ := Option.isSome_iff_exists.mp seeded
    simp [ofConfig, given]

theorem compileMany_take {now : Instant} {document : Schema.Document} {k n : Nat}
    {values : List Json} (le : k ≤ n) (many : (c.compileMany now document n).2 = .ok values) :
    values.length = n ∧ (c.compileMany now document k).2 = .ok (values.take k) :=
  Generation.Generate.take_of_replicate le many

/-- Two compilers that were made for one configuration with a seed, with caches of any size and age, and
were used in whatever ways with equally many words taken: all that they compile next is the same on both,
and so is the next source that they seed. The source of seeds has moved on by one word for each
compilation. And the values of a run of compilations are the first values of a longer run that
succeeds. -/
theorem after_reproduces (generation : Config.Generation) (seed : Nat)
    (caching caching' : Config.Caching) (entropy entropy' : UInt64) (uses uses' : List Use)
    (equal : uses.countP Use.takesWord = uses'.countP Use.takesWord) :
    let seeded := { generation with seed := some seed }
    let c := (ofConfig seeded caching entropy).after uses
    let c' := (ofConfig seeded caching' entropy').after uses'
    (∀ now document node,
      (c.compileNode now document node).2 = (c'.compileNode now document node).2) ∧
    (∀ now document, (c.compile now document).2 = (c'.compile now document).2) ∧
    (∀ now document count,
      (c.compileMany now document count).2 = (c'.compileMany now document count).2) ∧
    c.child.2 = c'.child.2 ∧
    c.parent = nextParent^[uses.countP Use.takesWord] (Cipher.ofSeed (UInt64.ofNat seed)) ∧
    (∀ (compiler : Compiler) (now : Instant) (document : Schema.Document) (k n : Nat)
      (values : List Json), k ≤ n → (compiler.compileMany now document n).2 = .ok values →
        values.length = n ∧ (compiler.compileMany now document k).2 = .ok (values.take k)) := by
  intro seeded c c'
  have twins : c.Twins c' :=
    (twins_ofConfig seeded rfl caching caching' entropy entropy').after equal
  refine ⟨fun now document node => ?_, fun now document => (twins.compile now document).2,
    fun now document count => ?_, ?_, (ofConfig seeded caching entropy).parent_after uses,
    fun compiler now document k n values => compileMany_take⟩
  · simp only [compileNode, twins.plan]
    exact (twins.run _).2
  · simp only [compileMany, twins.plan]
    exact (twins.run _).2
  · show Cipher.ofSeed (Draw.word64 c.parent).1 = Cipher.ofSeed (Draw.word64 c'.parent).1
    rw [twins.parent]

/-- A schema that cannot be read, a reference that leads nowhere, and values that are drawn. -/
def astray : List Use := [
  .prepare ⟨0⟩ .null,
  .compile ⟨0⟩ (.ofNode { reference := some "#/definitions/nowhere" }),
  .compileMany ⟨7⟩ (.ofNode (.ofKind .string)) 3]

/-- After these a compiler gives what it gives after two seeds, where it remembers other schemas. -/
theorem after_reproduces_astray :
    astray.countP Use.takesWord = [Use.child, .child].countP Use.takesWord ∧
      ((ofConfig { ({} : Config.Generation) with seed := some 7 } {} 0).after astray).child.2 =
        ((ofConfig { ({} : Config.Generation) with seed := some 7 }
          { capacity := 1, ttl := some ⟨5⟩ } 3).after [.child, .child]).child.2 := by
  have equal : astray.countP Use.takesWord = [Use.child, .child].countP Use.takesWord := by decide
  obtain ⟨-, -, -, same, -⟩ := after_reproduces {} 7 {} { capacity := 1, ttl := some ⟨5⟩ } 0 3 astray
    [.child, .child] equal
  exact ⟨equal, same⟩

end Compiler

end MockApi
