import Mathlib.Data.List.Nodup
import Mathlib.Data.Set.Function
import MockApi.Generation.Calls
import MockApi.Proofs.Cache.Contents

/-!
# What is remembered of schemas

A library remembers documents that were read from schemas under their keys (`Library.Sound`), and each
step of a preparation keeps it so. Where no two schemas have one key, the document that is found for a
schema is therefore the document of that schema, and preparing is reading (`Library.Sound.prepare_answers`).
-/

namespace MockApi.Schema

/-- No two of the schemas are remembered under one key. -/
def KeysApart (schemas : List Json) (options : String) : Prop :=
  Set.InjOn (structuralKey · options) {schema | schema ∈ schemas}

/-- Schemas with different texts are apart. -/
theorem keysApart_of_nodup {schemas : List Json} (texts : (schemas.map Json.compact).Nodup)
    (options : String) : KeysApart schemas options :=
  fun _ mem _ other same =>
    List.inj_on_of_nodup_map texts mem other (congrArg StructuralKey.schema same)

/-- A document read from one of the schemas with the key, by one of the first `readings`. -/
structure Genuine (schemas : List Json) (options : String) (readings : Nat) (key : StructuralKey)
    (prepared : Prepared) : Prop where
  number : prepared.number < readings
  origin : ∃ schema ∈ schemas, structuralKey schema options = key ∧
    Document.ofJson schema = .ok prepared.document

section

variable {schemas : List Json} {options : String} {readings : Nat} {key : StructuralKey}
  {schema : Json} {prepared : Prepared}

namespace Genuine

theorem mono {more : List Json} {later : Nat} (genuine : Genuine schemas options readings key prepared)
    (known : schemas ⊆ more) (le : readings ≤ later) : Genuine more options later key prepared := by
  obtain ⟨number, schema, mem, same, read⟩ := genuine
  exact ⟨Nat.lt_of_lt_of_le number le, schema, known mem, same, read⟩

/-- Keys that are apart leave no doubt which schema was read. -/
theorem document (apart : KeysApart schemas options) (mem : schema ∈ schemas)
    (genuine : Genuine schemas options readings (structuralKey schema options) prepared) :
    Document.ofJson schema = .ok prepared.document := by
  obtain ⟨-, other, known, same, read⟩ := genuine
  rwa [apart known mem same] at read

end Genuine

namespace Library

variable {capacity : Nat} {l : Library}

def Sound (capacity : Nat) (schemas : List Json) (options : String) (l : Library) : Prop :=
  l.cache.Keeps capacity (Genuine schemas options l.readings)

/-- What is answered for a schema, apart from the number of the reading. -/
def Answers (schema : Json) (result : Except Error Prepared) : Prop :=
  result.map (·.document) = Document.ofJson schema

theorem answers_ok : Answers schema (.ok prepared) ↔ Document.ofJson schema = .ok prepared.document :=
  eq_comm

theorem answers_error {e : Error} : Answers schema (.error e) ↔ Document.ofJson schema = .error e :=
  eq_comm

namespace Sound

theorem empty (capacity : Nat) (ttl : Option Nat) (schemas : List Json) (options : String) :
    (Library.empty capacity ttl).Sound (max capacity 1) schemas options :=
  Cache.Keeps.empty capacity ttl _

/-! ### Steps -/

theorem consult (sound : l.Sound capacity schemas options) (now : Nat) (key : StructuralKey) :
    (l.consult now key).1.Sound capacity schemas options :=
  Cache.Keeps.get sound now key

theorem genuine_of_consult {now : Nat} (sound : l.Sound capacity schemas options)
    (found : (l.consult now key).2 = some prepared) :
    Genuine schemas options l.readings key prepared :=
  Cache.Keeps.suits_of_get sound found

theorem remember (sound : l.Sound capacity schemas options) (now : Nat)
    (genuine : Genuine schemas options l.readings key prepared) :
    (l.remember now key prepared).Sound capacity schemas options :=
  Cache.Keeps.set sound now genuine

end Sound

theorem readings_le_read (l : Library) (schema : Json) : l.readings ≤ (l.read schema).1.readings := by
  unfold read
  split
  · exact Nat.le_succ _
  · exact Nat.le_refl _

theorem cache_read (l : Library) (schema : Json) : (l.read schema).1.cache = l.cache := by
  unfold read
  split <;> rfl

theorem answers_read (l : Library) (schema : Json) : Answers schema (l.read schema).2 := by
  unfold read Answers
  split <;> (rename_i read; rw [read]; rfl)

theorem genuine_of_read (mem : schema ∈ schemas) (read : (l.read schema).2 = .ok prepared) :
    Genuine schemas options (l.read schema).1.readings (structuralKey schema options) prepared := by
  unfold Library.read at read ⊢
  split at read
  · rename_i document parsed
    cases read
    exact ⟨Nat.lt_succ_self _, schema, mem, rfl, parsed⟩
  · cases read

theorem Sound.read (sound : l.Sound capacity schemas options) (schema : Json) :
    (l.read schema).1.Sound capacity schemas options := by
  rw [Sound, l.cache_read]
  exact Cache.Keeps.mono sound fun _ _ genuine =>
    genuine.mono (List.Subset.refl _) (l.readings_le_read schema)

/-! ### All steps at once -/

/-- A preparation takes its steps one right after the other: what is found is the answer, and what is not
found is read, and remembered if it can be read. -/
theorem Sound.prepare_cases (sound : l.Sound capacity schemas options) (now : Nat) (schema : Json) :
    let consulted := l.consult now (structuralKey schema options)
    let read := consulted.1.read schema
    (∃ prepared, consulted.2 = some prepared ∧
      l.prepare now options schema = (consulted.1, .ok prepared)) ∨
    (consulted.2 = none ∧ ∃ prepared, read.2 = .ok prepared ∧ l.prepare now options schema =
      (read.1.remember now (structuralKey schema options) prepared, .ok prepared)) ∨
    (consulted.2 = none ∧ ∃ e, read.2 = .error e ∧ l.prepare now options schema = (read.1, .error e)) := by
  intro consulted read
  unfold Library.prepare Cache.getOrBuild
  rcases found : l.cache.get now (structuralKey schema options) with ⟨cache, _ | prepared⟩
  · have missed : consulted = ({ l with cache }, none) := by
      simp only [consulted, Library.consult, found]
    cases parsed : Document.ofJson schema with
    | ok document =>
      refine .inr (.inl ⟨congrArg Prod.snd missed, ⟨document, l.readings⟩, ?_, ?_⟩) <;>
        simp [read, missed, Library.read, Library.remember, parsed, Except.map]
    | error e =>
      refine .inr (.inr ⟨congrArg Prod.snd missed, e, ?_, ?_⟩) <;>
        simp [read, missed, Library.read, parsed, Except.map]
  · have hit : consulted = ({ l with cache }, some prepared) := by
      simp only [consulted, Library.consult, found]
    have genuine : Genuine schemas options l.readings _ prepared :=
      sound.genuine_of_consult (congrArg Prod.snd hit)
    -- what is found was read earlier, so that it is not taken for a new reading
    have old : (prepared.number == l.readings) = false := by
      simpa using Nat.ne_of_lt genuine.number
    exact .inl ⟨prepared, congrArg Prod.snd hit, by simp [hit, old]⟩

theorem Sound.prepare (sound : l.Sound capacity schemas options) (mem : schema ∈ schemas) (now : Nat) :
    (l.prepare now options schema).1.Sound capacity schemas options := by
  have consulted := sound.consult now (structuralKey schema options)
  rcases sound.prepare_cases now schema with ⟨prepared, -, done⟩ | ⟨-, prepared, read, done⟩ |
    ⟨-, e, -, done⟩
  · rw [done]
    exact consulted
  · rw [done]
    exact (consulted.read schema).remember now (genuine_of_read mem read)
  · rw [done]
    exact consulted.read schema

/-- A preparation answers what reading answers, whatever was prepared before. -/
theorem Sound.prepare_answers (sound : l.Sound capacity schemas options)
    (apart : KeysApart schemas options) (mem : schema ∈ schemas) (now : Nat) :
    Answers schema (l.prepare now options schema).2 := by
  rcases sound.prepare_cases now schema with ⟨prepared, found, done⟩ | ⟨-, prepared, read, done⟩ |
    ⟨-, e, read, done⟩
  · rw [done]
    exact answers_ok.mpr ((sound.genuine_of_consult found).document apart mem)
  · rw [done]
    exact read ▸ answers_read _ schema
  · rw [done]
    exact read ▸ answers_read _ schema

end Library

end

end MockApi.Schema
