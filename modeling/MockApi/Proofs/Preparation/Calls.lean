import MockApi.Proofs.Preparation.Library

/-!
# Preparing at the same time

Calls of one compiler get the answers that reading gives, however their steps are mixed
(`run_transparent`). One step keeps what is remembered and what the calls hold (`Sound.step`), whichever
call it belongs to; a call comes nearer to its end by its own steps only (`run_distance`).
-/

namespace MockApi

open Schema Generation

namespace Compiler

variable {capacity i : Nat} {schemas : List Json} {options : String} {c : Compiler} {call : Call}
  {t : Calls}

/-! ### One step -/

/-- What a step of a call does to what is remembered, and how far it brings the call. -/
inductive Turn (now : Instant) (c : Compiler) (schema : Json) : Progress → Library → Progress → Prop
  | found {prepared : Prepared}
      (found : (c.library.consult now.millis.toNat (c.key schema)).2 = some prepared) :
      Turn now c schema .asking (c.library.consult now.millis.toNat (c.key schema)).1
        (.returned (.ok prepared))
  | missed (missed : (c.library.consult now.millis.toNat (c.key schema)).2 = none) :
      Turn now c schema .asking (c.library.consult now.millis.toNat (c.key schema)).1 .reading
  | read {prepared : Prepared} (read : (c.library.read schema).2 = .ok prepared) :
      Turn now c schema .reading (c.library.read schema).1 (.storing prepared)
  | refused {e : Error} (refused : (c.library.read schema).2 = .error e) :
      Turn now c schema .reading (c.library.read schema).1 (.returned (.error e))
  | stored {prepared : Prepared} :
      Turn now c schema (.storing prepared)
        (c.library.remember now.millis.toNat (c.key schema) prepared) (.returned (.ok prepared))
  | rested {result : Except Error Prepared} :
      Turn now c schema (.returned result) c.library (.returned result)

theorem advance_cases (now : Instant) (c : Compiler) (call : Call) :
    ∃ library progress, advance now c call = ({ c with library }, { call with progress }) ∧
      Turn now c call.schema call.progress library progress := by
  obtain ⟨schema, progress⟩ := call
  cases progress with
  | asking =>
    refine ⟨_, _, rfl, ?_⟩
    split
    · exact .found ‹_›
    · exact .missed ‹_›
  | reading =>
    refine ⟨_, _, rfl, ?_⟩
    split
    · exact .read ‹_›
    · exact .refused ‹_›
  | storing prepared => exact ⟨_, _, rfl, .stored⟩
  | returned result => exact ⟨_, _, rfl, .rested⟩

theorem Turn.readings_le {now : Instant} {schema : Json} {progress next : Progress}
    {library : Library} (turn : Turn now c schema progress library next) :
    c.library.readings ≤ library.readings := by
  cases turn with
  | read _ | refused _ => exact c.library.readings_le_read schema
  | _ => exact Nat.le_refl _

/-- What a call holds was read from a schema with the key of its own. -/
def Call.Sound (schemas : List Json) (options : String) (readings : Nat) (call : Call) : Prop :=
  call.schema ∈ schemas ∧ match call.progress with
    | .asking | .reading => True
    | .storing prepared | .returned (.ok prepared) =>
      Genuine schemas options readings (structuralKey call.schema options) prepared
    | .returned (.error e) => Document.ofJson call.schema = .error e

namespace Call.Sound

theorem mono {readings later : Nat} (sound : call.Sound schemas options readings)
    (le : readings ≤ later) : call.Sound schemas options later := by
  obtain ⟨schema, _ | _ | prepared | prepared | e⟩ := call
  · exact sound
  · exact sound
  · exact ⟨sound.1, sound.2.mono (List.Subset.refl _) le⟩
  · exact sound
  · exact ⟨sound.1, sound.2.mono (List.Subset.refl _) le⟩

theorem answers {readings : Nat} {result : Except Error Prepared}
    (sound : call.Sound schemas options readings) (apart : KeysApart schemas options)
    (returned : call.progress = .returned result) : Library.Answers call.schema result := by
  obtain ⟨schema, progress⟩ := call
  cases returned
  cases result with
  | ok prepared => exact Library.answers_ok.mpr (sound.2.document apart sound.1)
  | error e => exact Library.answers_error.mpr sound.2

end Call.Sound

theorem Turn.sound {now : Instant} {schema : Json} {progress next : Progress} {library : Library}
    (turn : Turn now c schema progress library next) (fingerprint : c.options.fingerprint = options)
    (remembered : c.library.Sound capacity schemas options)
    (sound : Call.Sound schemas options c.library.readings ⟨schema, progress⟩) :
    library.Sound capacity schemas options ∧
      Call.Sound schemas options library.readings ⟨schema, next⟩ := by
  subst fingerprint
  cases turn with
  | found found => exact ⟨remembered.consult _ _, sound.1, remembered.genuine_of_consult found⟩
  | missed => exact ⟨remembered.consult _ _, sound.1, trivial⟩
  | read read => exact ⟨remembered.read schema, sound.1, Library.genuine_of_read sound.1 read⟩
  | refused refused =>
    have answers := c.library.answers_read schema
    rw [refused] at answers
    exact ⟨remembered.read schema, sound.1, Library.answers_error.mp answers⟩
  | stored => exact ⟨remembered.remember _ sound.2, sound⟩
  | rested => exact ⟨remembered, sound⟩

namespace Calls

/-! ### All calls -/

/-- Whatever is generated with a compiler, it takes a word of its source, and that is all that others
see of it. -/
theorem step_draw {α : Type} (t : Calls) (g : Generate Cipher α) :
    t.step .draw = { t with shared := (t.shared.run g).1 } := rfl

/-- What is remembered, and what the calls hold, was read from schemas with the right keys. -/
structure Sound (capacity : Nat) (schemas : List Json) (options : String) (t : Calls) : Prop where
  fingerprint : t.shared.options.fingerprint = options
  library : t.shared.library.Sound capacity schemas options
  calls : ∀ call ∈ t.parties, call.Sound schemas options t.shared.library.readings

theorem sound_start (generation : Config.Generation) (caching : Config.Caching) (entropy : UInt64)
    (schemas : List Json) :
    (start (.ofConfig generation caching entropy) schemas).Sound (max caching.capacity 1) schemas
      (Options.ofConfig generation).fingerprint where
  fingerprint := rfl
  library := Library.Sound.empty caching.capacity (caching.ttl.map Duration.millis) _ _
  calls call mem := by
    obtain ⟨schema, known, rfl⟩ := List.mem_map.mp mem
    exact ⟨known, trivial⟩

namespace Sound

theorem step (sound : t.Sound capacity schemas options) (event : Event) :
    (t.step event).Sound capacity schemas options := by
  cases event with
  | draw => exact ⟨sound.fingerprint, sound.library, sound.calls⟩
  | call i now =>
    rcases t.move_cases i (advance now) with same | ⟨before, call, after, split, moved⟩
    · rw [Calls.step, same]
      exact sound
    · have calls := sound.calls
      rw [split] at calls
      obtain ⟨library, progress, advances, turn⟩ := advance_cases now t.shared call
      obtain ⟨remembered, own⟩ :=
        turn.sound sound.fingerprint sound.library (calls call (by simp))
      -- what the other calls hold was read before, and no reading is taken back
      have later := turn.readings_le
      rw [Calls.step, moved, advances]
      refine ⟨sound.fingerprint, remembered, fun other mem => ?_⟩
      rcases Crowd.mem_replaced mem with rfl | there
      · exact own
      · exact (calls other there).mono later

theorem run (sound : t.Sound capacity schemas options) (events : List Event) :
    (t.run events).Sound capacity schemas options := by
  induction events generalizing t with
  | nil => exact sound
  | cons event events ih => exact ih (sound.step event)

end Sound

end Calls

/-! ### A call that is not disturbed -/

/-- Three steps of a call, with none of another in between, are a preparation. -/
theorem advance_undisturbed (sound : c.library.Sound capacity schemas c.options.fingerprint)
    (now : Instant) (schema : Json) :
    let looked := advance now c { schema }
    let read := advance now looked.1 looked.2
    advance now read.1 read.2 =
      ((c.prepare now schema).1, ⟨schema, .returned (c.prepare now schema).2⟩) := by
  intro looked read
  have prepares := sound.prepare_cases now.millis.toNat schema
  rcases prepares with ⟨prepared, found, done⟩ | ⟨missed, prepared, parsed, done⟩ |
    ⟨missed, e, parsed, done⟩
  · simp [read, looked, advance, key, found, prepare, done]
  · simp [read, looked, advance, key, missed, parsed, prepare, done]
  · simp [read, looked, advance, key, missed, parsed, prepare, done]

theorem Calls.run_undisturbed {schema : Json} (sound : t.Sound capacity schemas options)
    (present : t.parties[i]? = some { schema }) (now : Instant) :
    t.run (List.replicate 3 (.call i now)) =
      ⟨(t.shared.prepare now schema).1,
        t.parties.set i ⟨schema, .returned (t.shared.prepare now schema).2⟩⟩ := by
  obtain ⟨inside, -⟩ := List.getElem?_eq_some_iff.mp present
  have library := sound.library
  rw [← sound.fingerprint] at library
  show ((t.move i (advance now)).move i (advance now)).move i (advance now) = _
  rw [Crowd.move_of_some present, t.move_set _ inside, t.move_set _ inside,
    advance_undisturbed library]

/-! ### A call comes to its end -/

/-- How many steps a call takes at most. -/
def Progress.distance : Progress → Nat
  | asking => 3
  | reading => 2
  | storing _ => 1
  | returned _ => 0

theorem Turn.distance_le {now : Instant} {schema : Json} {progress next : Progress}
    {library : Library} (turn : Turn now c schema progress library next) :
    next.distance ≤ progress.distance - 1 := by
  cases turn <;> simp [Progress.distance]

theorem Progress.eq_returned {progress : Progress} (near : progress.distance = 0) :
    ∃ result, progress = .returned result := by
  cases progress with
  | returned result => exact ⟨result, rfl⟩
  | _ => cases near

namespace Calls

/-- Whether a step of the call at this place comes next. -/
def Event.isTurnOf (i : Nat) : Event → Bool
  | .call j _ => j == i
  | .draw => false

theorem step_distance (present : t.parties[i]? = some call) (event : Event) :
    ∃ call', (t.step event).parties[i]? = some call' ∧ call'.schema = call.schema ∧
      call'.progress.distance ≤ call.progress.distance - (event.isTurnOf i).toNat := by
  cases event with
  | draw => exact ⟨call, present, rfl, Nat.le_refl _⟩
  | call j now =>
    by_cases own : j = i
    · subst own
      obtain ⟨library, progress, advances, turn⟩ := advance_cases now t.shared call
      refine ⟨{ call with progress }, ?_, rfl, ?_⟩
      · rw [Calls.step, Crowd.getElem?_move_self (advance now) present, advances]
      · simpa [Event.isTurnOf] using turn.distance_le
    · refine ⟨call, (t.getElem?_move_of_ne (advance now) own).trans present, rfl, ?_⟩
      simp [Event.isTurnOf, beq_false_of_ne own]

theorem run_distance (present : t.parties[i]? = some call) (events : List Event) :
    ∃ call', (t.run events).parties[i]? = some call' ∧ call'.schema = call.schema ∧
      call'.progress.distance ≤ call.progress.distance - events.countP (·.isTurnOf i) := by
  induction events generalizing t call with
  | nil => exact ⟨call, present, rfl, Nat.le_refl _⟩
  | cons event events ih =>
    obtain ⟨mid, there, schema, near⟩ := step_distance present event
    obtain ⟨last, found, same, nearer⟩ := ih there
    refine ⟨last, found, same.trans schema, ?_⟩
    rw [List.countP_cons]
    cases own : event.isTurnOf i <;> rw [own] at near <;> simp at near ⊢ <;> omega

/-! ### What is answered -/

/-- Whatever the capacity, the time to live and the clock, and however the steps of the calls are mixed
with each other and with other uses of the compiler: each call answers what reading its schema answers, and
comes to its end in three steps; a schema that cannot be read is not remembered; there are never more
schemas than there is room for. -/
theorem run_transparent (generation : Config.Generation) (caching : Config.Caching) (entropy : UInt64)
    (schemas : List Json) (events : List Event)
    (apart : KeysApart schemas (Options.ofConfig generation).fingerprint) :
    let t := (start (.ofConfig generation caching entropy) schemas).run events
    t.shared.library.cache.size ≤ max caching.capacity 1 ∧
      (∀ schema ∈ schemas, ∀ e, Document.ofJson schema = .error e →
        t.shared.key schema ∉ t.shared.library.cache.keys) ∧
      (∀ i schema, schemas[i]? = some schema → ∃ call, t.parties[i]? = some call ∧
        call.schema = schema ∧
        (∀ result, call.progress = .returned result → Library.Answers schema result) ∧
        (3 ≤ events.countP (·.isTurnOf i) → ∃ result, call.progress = .returned result)) ∧
      ∀ schema ∈ schemas, ∀ now, Library.Answers schema (t.shared.prepare now schema).2 := by
  intro t
  have sound : t.Sound (max caching.capacity 1) schemas (Options.ofConfig generation).fingerprint :=
    (sound_start generation caching entropy schemas).run events
  refine ⟨sound.library.size_le, fun schema mem e refused stored => ?_, fun i schema listed => ?_,
    fun schema mem now => ?_⟩
  · rw [key, sound.fingerprint] at stored
    obtain ⟨prepared, genuine⟩ := sound.library.suits_of_mem_keys stored
    cases refused.symm.trans (genuine.document apart mem)
  · have present : (start (.ofConfig generation caching entropy) schemas).parties[i]? =
        some { schema } := by
      simp [start, listed]
    obtain ⟨call, found, same, near⟩ := run_distance present events
    have asking : ({ schema } : Call).progress.distance = 3 := rfl
    refine ⟨call, found, same, fun result returned => ?_, fun turns => ?_⟩
    · have answers := (sound.calls call (List.mem_of_getElem? found)).answers apart returned
      rwa [same] at answers
    · exact Progress.eq_returned (by omega)
  · have answers := sound.library.prepare_answers apart mem now.millis.toNat
    rw [← sound.fingerprint] at answers
    exact answers

/-- A schema that can be read, and one that cannot. -/
def emptyAndNull : List Json := [.object [], .null]

/-- Two calls in turn, while the compiler is used for something else. -/
def alternating : List Event :=
  (List.replicate 3 [.call 0 ⟨0⟩, .draw, .call 1 ⟨5⟩]).flatten

theorem run_transparent_alternating :
    let t := (start (.ofConfig {} { capacity := 0, ttl := some ⟨0⟩ } 0) emptyAndNull).run alternating
    t.shared.library.cache.size ≤ 1 ∧
      ∃ call result, t.parties[0]? = some call ∧ call.progress = .returned result ∧
        Library.Answers (.object []) result := by
  obtain ⟨size, -, calls, -⟩ := run_transparent {} { capacity := 0, ttl := some ⟨0⟩ } 0 emptyAndNull
    alternating (keysApart_of_nodup (by decide +kernel) _)
  obtain ⟨call, found, -, answers, ends⟩ := calls 0 (.object []) rfl
  obtain ⟨result, returned⟩ := ends (by decide)
  exact ⟨size, call, result, found, returned, answers result returned⟩

end Calls

end Compiler

end MockApi
