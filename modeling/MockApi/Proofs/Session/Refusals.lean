import Mathlib.Data.List.Forall2
import MockApi.Proofs.Engine.Twins
import MockApi.Proofs.Session.Coherence

/-!
# Refused requests leave no trace

Two sessions with one seed, set up for one definition, have twins for engines (`twins_of_create`). If
some of the requests that the first one refuses are never made to the second one, it answers the others
alike, and its store counts the same after each of them (`history_without_refused`).
-/

namespace MockApi

/-! ### Histories of twins -/

/-- The visits are of one request and read the same dates; they may be stamped at different times. -/
structure Visit.Again (v v' : Visit) : Prop where
  request : v.request = v'.request
  dates : v.dates = v'.dates

namespace Engine

/-- Both were answered, the answers are alike, and the store counts the same. -/
def AnsweredAlike (a a' : Client × Store) : Prop :=
  (∃ response response', a.1.response? = some response ∧ a'.1.response? = some response' ∧
    response.Alike response') ∧ a.2 = a'.2

open Visit in
theorem Twins.history {e e' : Engine} (twins : e.Twins e') (calm : e.IsCalm)
    (calm' : e'.IsCalm) {chosen : Nat → Bool} {visits others : List Visit}
    (refused : ∀ (i : Nat) entry, (e.history visits)[i]? = some entry → chosen i = false →
      entry.1.isRefused)
    (again : List.Forall₂ Again (selected chosen visits) others) :
    List.Forall₂ AnsweredAlike (selected chosen (e.history visits)) (e'.history others) := by
  induction visits generalizing e e' chosen others with
  | nil =>
    cases again
    exact .nil
  | cons v visits ih =>
    have later (i : Nat) (entry : Client × Store)
        (present : ((e.receive v).1.history visits)[i]? = some entry) :=
      refused (i + 1) entry present
    have still : (e.receive v).1.IsCalm := calm.attend v _ _
    simp only [Engine.history, selected] at again ⊢
    cases picked : chosen 0 with
    | false =>
      rw [picked] at again
      exact ih (twins.receive_refused (refused 0 _ rfl picked)) still calm' later again
    | true =>
      rw [if_pos picked] at again
      cases again with
      | @cons _ v' _ others same again =>
        obtain ⟨twins', response, response', answered, answered', alike⟩ :=
          twins.receive calm calm' same.request same.dates
        refine .cons ⟨⟨response, response', answered, answered', alike⟩, twins'.backend.store⟩ ?_
        exact ih twins' still (calm'.attend v' _ _) later again

end Engine

/-! ### Sessions -/

namespace Session

variable {config : Config} {entropy entropy' : UInt64} {now now' : Instant} {definition : Definition}
  {s s' : Session}

/-- Nothing that a response is made from is drawn where there is a seed. -/
theorem twins_of_create (seeded : config.generation.seed.isSome)
    (created : create config entropy now definition = .ok s)
    (created' : create config entropy' now' definition = .ok s') : s.engine.Twins s'.engine := by
  have apart : Schema.KeysApart definition.schema.toList
      (Generation.Options.ofConfig config.generation).fingerprint := by
    refine Schema.keysApart_of_nodup ?_ _
    cases definition.schema <;> simp
  obtain ⟨engine, built, rfl⟩ := create_eq_ok created
  obtain ⟨engine', built', rfl⟩ := create_eq_ok created'
  have table : engine.table = engine'.table := by
    have serves := (serves_of_buildEngine built (List.Subset.refl _)).table apart
    have serves' := (serves_of_buildEngine built' (List.Subset.refl _)).table apart
    exact Except.ok.inj (serves.symm.trans serves')
  obtain ⟨seed, given⟩ := Option.isSome_iff_exists.mp seeded
  obtain ⟨_, -, rfl⟩ := buildEngine_eq_ok built
  obtain ⟨_, -, rfl⟩ := buildEngine_eq_ok built'
  obtain ⟨library, compiler⟩ := routeTable_compiler config
    (.ofConfig config.generation config.cache entropy) now definition
  obtain ⟨library', compiler'⟩ := routeTable_compiler config
    (.ofConfig config.generation config.cache entropy') now' definition
  have options : (Compiler.ofConfig config.generation config.cache entropy).options =
      (Compiler.ofConfig config.generation config.cache entropy').options := by
    rw [Compiler.ofConfig, Compiler.ofConfig]
  have parent : (Compiler.ofConfig config.generation config.cache entropy).parent =
      (Compiler.ofConfig config.generation config.cache entropy').parent := by
    rw [Compiler.ofConfig, Compiler.ofConfig, given]
    rfl
  refine ⟨by simp only [Engine.ofTable], table, ⟨?_, ?_⟩, by simp only [Engine.ofTable]⟩
  · simp only [Engine.ofTable, compiler, compiler']
    exact options
  · simp only [Engine.ofTable, compiler, compiler']
    exact parent

theorem isCalm_of_create (calm : ∀ scenario, config.server.scenario = some scenario →
    scenario.InjectsNone config.scenarios) (created : create config entropy now definition = .ok s) :
    s.engine.IsCalm := by
  obtain ⟨engine, built, rfl⟩ := create_eq_ok created
  obtain ⟨table, -, rfl⟩ := buildEngine_eq_ok built
  exact calm

/-- Two sessions are set up for one definition with a configuration that gives a seed and fails no
requests, whatever else they draw from and at whatever times. The first one serves some requests one after
the other, and the second one serves those at chosen places, with the same dates but stamped at times of
their own. If the first one refused all others, since no route matched them or since their bodies were
rejected, then both give like answers, with the same status and headers and with bodies that differ in
stamps and in drawn identifiers at most, and their stores count the same after each request. -/
theorem history_without_refused (seeded : config.generation.seed.isSome)
    (calm : ∀ scenario, config.server.scenario = some scenario → scenario.InjectsNone config.scenarios)
    (created : create config entropy now definition = .ok s)
    (created' : create config entropy' now' definition = .ok s') (chosen : Nat → Bool)
    (visits others : List Visit)
    (refused : ∀ (i : Nat) entry, (s.engine.history visits)[i]? = some entry → chosen i = false →
      entry.1.isRefused)
    (again : List.Forall₂ Visit.Again (Visit.selected chosen visits) others) :
    List.Forall₂ Engine.AnsweredAlike (Visit.selected chosen (s.engine.history visits))
      (s'.engine.history others) := by
  have twins := twins_of_create seeded created created'
  exact twins.history (isCalm_of_create calm created) (isCalm_of_create calm created') refused again

def happy : Config := { Config.forTesting 3000 with server := { scenario := some .happyPath } }

def noted : Definition where
  routes := [{ path := "/notes", method := "POST", response := .bool true }]

/-- Two notes, and between them something that no route is for. -/
def astray : List Visit :=
  ["/notes", "/missing", "/notes"].map fun path => ⟨{ method := .post, path }, ⟨1⟩, ⟨1⟩⟩

/-- The notes alone, later and with other random identifiers. -/
theorem history_without_refused_astray : ∃ s s', create happy 0 ⟨0⟩ noted = .ok s ∧
    create happy 5 ⟨9⟩ noted = .ok s' ∧
    List.Forall₂ Engine.AnsweredAlike (Visit.selected (· ≠ 1) (s.engine.history astray))
      (s'.engine.history
        [⟨{ method := .post, path := "/notes" }, ⟨1⟩, ⟨7⟩⟩,
          ⟨{ method := .post, path := "/notes" }, ⟨1⟩, ⟨8⟩⟩]) := by
  have accepted : (create happy 0 ⟨0⟩ noted).isOk ∧ (create happy 5 ⟨9⟩ noted).isOk := by
    decide +kernel
  have refusals : (create happy 0 ⟨0⟩ noted).toOption.map
      (fun s => (s.engine.history astray).map (·.1.isRefused)) = some [false, true, false] := by
    decide +kernel
  cases created : create happy 0 ⟨0⟩ noted with
  | error e =>
    rw [created] at accepted
    cases accepted.1
  | ok s =>
    cases created' : create happy 5 ⟨9⟩ noted with
    | error e =>
      rw [created'] at accepted
      cases accepted.2
    | ok s' =>
      refine ⟨s, s', rfl, rfl, history_without_refused rfl (fun scenario set => ?_) created created' _
        _ _ (fun i entry present skipped => ?_) (.cons ⟨rfl, rfl⟩ (.cons ⟨rfl, rfl⟩ .nil))⟩
      · cases set
        exact Scenario.injectsNone_of_injectsErrors rfl _
      · obtain rfl : i = 1 := by simpa using skipped
        rw [created] at refusals
        have second := congrArg (·[1]?) (Option.some.inj refusals)
        rw [List.getElem?_map, present] at second
        exact Option.some.inj second

end Session

end MockApi
