import MockApi.Proofs.Engine.Confinement
import MockApi.Proofs.Engine.Statistics
import MockApi.Proofs.Session.Refusals

/-!
# Sessions with a scenario

A session with a scenario is compared with one that has none. Under a scenario that injects no errors both give like answers
and count alike, but for delays, after every request (`Engine.Shadows.course`). Under any scenario each request is confined
to what `Meeting.Confined` and `Meeting.Delayed` say, with errors numbered in the order of the requests, always or never as
the probability says (`Session.course_confined`).
-/

namespace MockApi

/-! ### Alike counts and answers -/

/-- The same counts, whatever was delayed and however long things took. -/
structure Stats.Agree (s s' : Stats) : Prop where
  totalRequests : s.totalRequests = s'.totalRequests
  ways : ∀ way, s.count way = s'.count way
  latencies : s.latencies.count = s'.latencies.count

structure Outcome.Alike (o o' : Outcome) : Prop where
  failing : o.failing? = o'.failing?
  response : o.response.Alike o'.response

theorem Outcome.Alike.refl (o : Outcome) : o.Alike o := ⟨rfl, .refl _⟩

namespace Stats.Agree

variable {s s' : Stats}

theorem recordRequest (agree : s.Agree s') : s.recordRequest.Agree s'.recordRequest where
  totalRequests := congrArg (· + 1) agree.totalRequests
  ways way := ((counts_failing way).request s).trans ((agree.ways way).trans ((counts_failing way).request s').symm)
  latencies := agree.latencies

theorem delay (agree : s.Agree s') : s.recordInjectedDelay.Agree s' where
  totalRequests := agree.totalRequests
  ways way := ((counts_failing way).delay s).trans (agree.ways way)
  latencies := agree.latencies

theorem close {e e' : Engine} (agree : e.stats.Agree e'.stats) {o o' : Outcome} (same : o.failing? = o'.failing?)
    (delay delay' : Nat) : (e.close o delay).stats.Agree (e'.close o' delay').stats where
  totalRequests := by
    have kept (o : Outcome) (s : Stats) : (o.record s).totalRequests = s.totalRequests := by cases o <;> rfl
    exact (kept o e.stats).trans (agree.totalRequests.trans (kept o' e'.stats).symm)
  ways way := by
    have counts := counts_failing way
    rw [Engine.close, Engine.close]
    simp only [Engine.recorded, counts.latency, counts.record, agree.ways way, same]
  latencies := by
    have kept (o : Outcome) (s : Stats) : (o.record s).latencies = s.latencies := by cases o <;> rfl
    have more (s : Stats) (nanos : Nat) : (s.recordLatency nanos).latencies.count = s.latencies.count + 1 := rfl
    rw [Engine.close, Engine.close]
    simp only [Engine.recorded, more, kept, agree.latencies]

end Stats.Agree

/-! ### What the pipeline makes -/

theorem Making.Alike.outcome {making making' : Making} (alike : making.Alike making') (route : Route) :
    (making.outcome route).Alike (making'.outcome route) := by
  cases alike with
  | minting | counting => exact .refl _
  | failed e => exact .refl _
  | @answered body body' alike => exact ⟨rfl, rfl, rfl, alike⟩

/-- Twins make like answers of a request that is matched alike. -/
theorem Backend.Twins.settle {e e' : Engine} (twins : e.backend.Twins e'.backend)
    (strict : e.config.server.strictMode = e'.config.server.strictMode) {v v' : Visit} (again : v.Again v') (m : RouteMatch) :
    (e.settle v m).1.Twins (e'.settle v' m).1 ∧ (e.settle v m).2.Alike (e'.settle v' m).2 := by
  have rejection : e.rejection m.route v.request.body = e'.rejection m.route v'.request.body := by
    simp only [Engine.rejection, strict, again.request]
  unfold Engine.settle
  rw [← rejection]
  cases e.rejection m.route v.request.body with
  | some failure => exact ⟨twins, .refl _⟩
  | none =>
    have readings : m.route.source.action? ≠ some .replace →
        v.reading (.answering m 0) = v'.reading (.answering m 0) := by
      intro other
      simp only [Visit.reading]
      split
      · rename_i r replaces
        rw [replaces] at other
        exact absurd rfl other
      · exact again.dates
    obtain ⟨begun, making⟩ := twins.begin readings m.params v.request.body
    rw [again.request] at begun making
    obtain ⟨once, making⟩ := begun.advance v.stamp v'.stamp making
    obtain ⟨twice, making⟩ := once.advance v.stamp v'.stamp making
    rw [again.request]
    exact ⟨twice, making.outcome m.route⟩

/-! ### Two engines -/

/-- Both were answered, the answers are alike, and afterwards the counts are the same and so is the store. -/
structure Meeting.Alike (t t' : Meeting) : Prop where
  answers : ∃ response response', t.client.response? = some response ∧ t'.client.response? = some response' ∧
    response.Alike response'
  stats : t.after.stats.Agree t'.after.stats
  store : t.after.backend.store = t'.after.backend.store

namespace Engine

/-- An engine with a scenario that injects no errors, and one without a scenario. -/
structure Shadows (scenario : Scenario) (e e' : Engine) : Prop where
  set : e.config.server.scenario = some scenario
  config : e'.config = e.config.plain
  table : e'.table = e.table
  backend : e.backend.Twins e'.backend
  stats : e.stats.Agree e'.stats
  sound : e.injector.bands.Sound
  peaceful : scenario.injectsErrors = false

namespace Shadows

variable {scenario : Scenario} {e e' : Engine} {v v' : Visit}

theorem drawing (shadows : Shadows scenario e e') (source source' : Cipher) :
    Shadows scenario { e with injector := { e.injector with source } }
      { e' with injector := { e'.injector with source := source' } } :=
  { shadows with }

/-- A request makes no difference between the two. -/
theorem meet (shadows : Shadows scenario e e') (again : v.Again v') :
    Meeting.Alike ⟨e, v⟩ ⟨e', v'⟩ ∧ Shadows scenario (e.receive v).1 (e'.receive v').1 := by
  obtain ⟨set, config, table, backend, stats, sound, peaceful⟩ := shadows
  have setup := e.attend_sameSetup v stageLimit { request := v.request }
  have setup' := e'.attend_sameSetup v' stageLimit { request := v'.request }
  have kept : (e.receive v).1.injector.bands.Sound :=
    (Meeting.after_injector (t := ⟨e, v⟩) set sound).1.symm ▸ sound
  -- it is enough to compare what the stages make of the request
  suffices alike : (∃ response response', (e.receive v).2.response? = some response ∧
      (e'.receive v').2.response? = some response' ∧ response.Alike response') ∧
      (e.receive v).1.stats.Agree (e'.receive v').1.stats ∧ (e.receive v).1.backend.Twins (e'.receive v').1.backend by
    obtain ⟨answers, counts, twins⟩ := alike
    refine ⟨⟨answers, counts, twins.store⟩, ⟨?_, ?_, ?_, twins, counts, kept, peaceful⟩⟩
    · exact (congrArg (·.server.scenario) setup.config).trans set
    · exact setup'.config.trans (config.trans (congrArg Config.plain setup.config.symm))
    · exact setup'.table.trans (table.trans setup.table.symm)
  have begun := stats.recordRequest
  cases found : e.table.matchRequest v.request.method v.request.path with
  | none =>
    have found' : e'.table.matchRequest v'.request.method v'.request.path = none := by
      rw [table, ← again.request, found]
    rw [receive_unmatched found, receive_unmatched found', again.request]
    exact ⟨⟨_, _, rfl, rfl, .refl _⟩, Stats.Agree.close begun rfl _ _, backend⟩
  | some m =>
    have found' : e'.table.matchRequest v'.request.method v'.request.path = some m := by
      rw [table, ← again.request, found]
    have unset : e'.config.server.scenario = none := by rw [config]; rfl
    obtain ⟨injector, delay, error, draws, visited⟩ := receive_scenario set sound found
    obtain rfl : error = none := by
      rw [← Option.not_isSome_iff_eq_none]
      exact fun told => absurd (draws.fails told) (by simp [peaceful])
    have strict : e.config.server.strictMode = e'.config.server.strictMode := by rw [config]; rfl
    let tempted := (e.recorded Stats.recordRequest).disturbed injector delay
    let arrived := e'.recorded Stats.recordRequest
    have settled : (tempted.settle v m).1.Twins (arrived.settle v' m).1 ∧ (tempted.settle v m).2.Alike (arrived.settle v' m).2 :=
      Backend.Twins.settle backend strict again m
    obtain ⟨twins, outcome⟩ := settled
    have counts : tempted.stats.Agree arrived.stats := by
      cases delay with
      | none => exact begun
      | some d => exact begun.delay
    rw [visited, receive_plain unset found']
    exact ⟨⟨_, _, rfl, rfl, outcome.response⟩, Stats.Agree.close counts outcome.failing _ _, twins⟩

theorem course (shadows : Shadows scenario e e') {encounters others : List Encounter}
    (again : List.Forall₂ (fun x x' => x.visit.Again x'.visit) encounters others) :
    List.Forall₂ Meeting.Alike (e.course encounters) (e'.course others) := by
  induction again generalizing e e' with
  | nil => exact .nil
  | @cons x x' encounters others first again ih =>
    obtain ⟨alike, shadows⟩ := (shadows.drawing x.source x'.source).meet first
    exact .cons alike (ih shadows)

end Shadows

end Engine

/-! ### Numbers of requests -/

/-- How many requests a route was found for, up to the one at a place. -/
def Meeting.ordinal (course : List Meeting) (i : Nat) : Nat := (course.take (i + 1)).countP (·.match?.isSome)

theorem Meeting.ordinal_cons (t : Meeting) (course : List Meeting) (i : Nat) :
    ordinal (t :: course) (i + 1) = t.match?.isSome.toNat + ordinal course i := by
  rw [ordinal, List.take_succ_cons, List.countP_cons, ordinal]
  cases t.match?.isSome <;> simp [Nat.add_comm]

theorem Meeting.ordinal_lt {course : List Meeting} {i j : Nat} {t : Meeting} (before : i < j) (met : course[j]? = some t)
    (matched : t.match?.isSome) : ordinal course i < ordinal course j := by
  have further : (course.take (i + 1)).countP (·.match?.isSome) ≤ (course.take j).countP (·.match?.isSome) :=
    (List.take_sublist_take_left (by omega)).countP_le
  have more : course.take (j + 1) = course.take j ++ [t] := by rw [List.take_add_one, met, Option.toList_some]
  rw [ordinal, ordinal, more, List.countP_append, List.countP_singleton, if_pos matched]
  omega

/-- The number of a request that no route is for does not matter. -/
theorem Meeting.Confined.renumber {t : Meeting} {scenario : Scenario} {statuses : List Nat} {n n' : Nat}
    (confined : t.Confined scenario statuses n) (same : t.match?.isSome → n = n') : t.Confined scenario statuses n' := by
  cases confined with
  | unmatched unmatched answered told status untouched => exact .unmatched unmatched answered told status untouched
  | answered matched outcome answers backend => exact .answered matched outcome answers backend
  | injected matched listed answered tells counted untouched =>
    exact .injected matched listed answered (same matched ▸ tells) counted untouched

/-- In the course of requests the scenario and its bands stay, and the numbers go up. -/
theorem Engine.engine_of_course {e : Engine} {scenario : Scenario} (set : e.config.server.scenario = some scenario)
    (sound : e.injector.bands.Sound) {encounters : List Encounter} {i : Nat} {t : Meeting}
    (met : (e.course encounters)[i]? = some t) :
    t.engine.config.server.scenario = some scenario ∧ t.engine.injector.bands = e.injector.bands ∧
      (scenario.injectsErrors → t.engine.injector.numbered + t.match?.isSome.toNat =
        e.injector.numbered + Meeting.ordinal (e.course encounters) i) := by
  induction encounters generalizing e i with
  | nil => cases met
  | cons x encounters ih =>
    let first : Meeting := ⟨{ e with injector := { e.injector with source := x.source } }, x.visit⟩
    have course : e.course (x :: encounters) = first :: first.after.course encounters := rfl
    rw [course] at met ⊢
    cases i with
    | zero =>
      obtain rfl : first = t := Option.some.inj met
      refine ⟨set, rfl, fun _ => ?_⟩
      rw [Meeting.ordinal, List.take_succ_cons, List.take_zero, List.countP_singleton]
      cases first.match?.isSome <;> rfl
    | succ i =>
      have set' : first.engine.config.server.scenario = some scenario := set
      obtain ⟨bands, numbered⟩ := Meeting.after_injector set' sound
      have setup := first.engine.attend_sameSetup x.visit stageLimit { request := x.visit.request }
      have stays : first.after.config.server.scenario = some scenario :=
        (congrArg (·.server.scenario) setup.config).trans set
      obtain ⟨set'', bands', numbered'⟩ := ih stays (bands.symm ▸ sound) met
      refine ⟨set'', bands'.trans bands, fun errs => ?_⟩
      rw [numbered' errs, numbered, errs, Bool.and_true, Meeting.ordinal_cons]
      exact Nat.add_assoc ..

/-! ### Sessions -/

namespace Session

variable {config : Config} {entropy : UInt64} {now : Instant} {definition : Definition} {scenario : Scenario} {s : Session}

theorem valid_of_create (created : create config entropy now definition = .ok s) : config.validate = .ok () := by
  unfold create buildEngine at created
  cases valid : config.validate with
  | error e =>
    rw [valid] at created
    cases created
  | ok _ => rfl

theorem apart_of_definition (definition : Definition) (fingerprint : String) :
    Schema.KeysApart definition.schema.toList fingerprint := by
  refine Schema.keysApart_of_nodup ?_ _
  cases definition.schema <;> simp

/-- A session that was created could have been created at any time, with any entropy. -/
theorem exists_create (created : create config entropy now definition = .ok s) (entropy' : UInt64) (now' : Instant) :
    ∃ s', create config entropy' now' definition = .ok s' := by
  obtain ⟨engine, built, -⟩ := create_eq_ok created
  have table := (serves_of_buildEngine built (List.Subset.refl _)).table (apart_of_definition ..)
  have made : (routeTable config (.ofConfig config.generation config.cache entropy') now' definition).2 = .ok engine.table :=
    (routeTable_eq (sound_ofConfig config entropy' definition.schema.toList) (apart_of_definition ..) (List.Subset.refl _)
      now').trans table
  unfold create buildEngine
  rw [valid_of_create created]
  simp only [bind, Except.bind, made]
  exact ⟨_, rfl⟩

/-- Without its scenario a session is made in the same way. -/
theorem create_plain (created : create config entropy now definition = .ok s) :
    create config.plain entropy now definition = .ok { s with
      config := config.plain
      engine := { s.engine with config := config.plain } } := by
  obtain ⟨engine, built, rfl⟩ := create_eq_ok created
  obtain ⟨table, made, rfl⟩ := buildEngine_eq_ok built
  have made' : (routeTable config.plain (.ofConfig config.plain.generation config.plain.cache entropy) now definition).2 =
      .ok table := made
  have same : config.plain.validate = config.validate := rfl
  have valid := same.trans (valid_of_create created)
  unfold create buildEngine
  rw [valid]
  simp only [bind, Except.bind, made']
  rfl

theorem shadows_of_create (seeded : config.generation.seed.isSome) (set : config.server.scenario = some scenario)
    (peaceful : scenario.injectsErrors = false) (created : create config entropy now definition = .ok s) {entropy' : UInt64}
    {now' : Instant} {s' : Session} (created' : create config.plain entropy' now' definition = .ok s') :
    Engine.Shadows scenario s.engine s'.engine := by
  have seeded' : config.plain.generation.seed.isSome := seeded
  have twins := twins_of_create seeded' (create_plain created) created'
  have sound := Config.bands_of_validate (valid_of_create created)
  obtain ⟨engine, built, rfl⟩ := create_eq_ok created
  obtain ⟨engine', built', rfl⟩ := create_eq_ok created'
  obtain ⟨table, -, rfl⟩ := buildEngine_eq_ok built
  obtain ⟨table', -, rfl⟩ := buildEngine_eq_ok built'
  exact ⟨set, rfl, twins.table.symm, twins.backend, ⟨rfl, fun _ => rfl, rfl⟩, sound, peaceful⟩

/-- A session with a seed and a scenario serves some requests one after the other, and the scenario draws whatever it likes.
The same session could have been set up without the scenario, whatever else it draws from and at whatever time. If the
scenario injects no errors, then both give like answers, with bodies that differ in stamps and in drawn identifiers at most,
and count the same after each request, but for delays. If it injects errors, then a request that no route is for is answered
with that, and any other one is answered as it would be without the scenario or told an error with one of the listed
statuses, in which case nothing that bodies are made with has changed. The number in such an error says how many requests a
route was found for so far, so that later errors have larger ones. With a probability of nought no request gets an error, and
with one each of those that a route was found for. Just these requests are delayed, if the scenario injects delays, each for
a time in the band and by that much longer than it would wait without the scenario. -/
theorem course_confined (seeded : config.generation.seed.isSome) (set : config.server.scenario = some scenario)
    (created : create config entropy now definition = .ok s) (entropy' : UInt64) (now' : Instant) :
    ∃ s', create config.plain entropy' now' definition = .ok s' ∧ ∀ encounters,
      let course := s.engine.course encounters
      (scenario.injectsErrors = false → ∀ others,
        List.Forall₂ (fun x x' : Encounter => x.visit.Again x'.visit) encounters others →
          List.Forall₂ Meeting.Alike course (s'.engine.course others)) ∧
      (scenario.injectsErrors → ∀ (i : Nat) (t : Meeting), course[i]? = some t →
        t.Confined scenario config.scenarios.errorStatuses (Meeting.ordinal course i)) ∧
      (∀ (i j : Nat) (t : Meeting), i < j → course[j]? = some t → t.match?.isSome →
        Meeting.ordinal course i < Meeting.ordinal course j) ∧
      (config.scenarios.errorProbability.eq Binary64.zero → ∀ t ∈ course, ¬t.client.IsInjected) ∧
      (config.scenarios.errorProbability.eq Binary64.one → scenario.injectsErrors →
        ∀ t ∈ course, t.match?.isSome → t.client.IsInjected) ∧
      ∀ t ∈ course, ∃ delay, t.Delayed scenario config.scenarios delay := by
  obtain ⟨s', created'⟩ := exists_create (create_plain created) entropy' now'
  refine ⟨s', created', fun encounters => ?_⟩
  have sound := Config.bands_of_validate (valid_of_create created)
  have fresh : s.engine.config = config ∧ s.engine.injector.bands = config.scenarios ∧ s.engine.injector.numbered = 0 := by
    obtain ⟨engine, built, rfl⟩ := create_eq_ok created
    obtain ⟨table, -, rfl⟩ := buildEngine_eq_ok built
    exact ⟨rfl, rfl, rfl⟩
  obtain ⟨own, bands, unnumbered⟩ := fresh
  have each {i : Nat} {t : Meeting} (met : (s.engine.course encounters)[i]? = some t) :=
    Engine.engine_of_course (own ▸ set) (bands ▸ sound) met
  have every {t : Meeting} (mem : t ∈ s.engine.course encounters) :
      t.engine.config.server.scenario = some scenario ∧ t.engine.injector.bands = config.scenarios := by
    obtain ⟨i, met⟩ := List.mem_iff_getElem?.mp mem
    exact ⟨(each met).1, (each met).2.1.trans bands⟩
  refine ⟨fun peaceful others again => ?_, fun errs i t met => ?_, fun i j t => Meeting.ordinal_lt, fun never t mem => ?_,
    fun always errs t mem => ?_, fun t mem => ?_⟩
  · exact (shadows_of_create seeded set peaceful created created').course again
  · obtain ⟨set, kept, numbered⟩ := each met
    rw [bands] at kept
    have confined := Meeting.confined set (kept ▸ sound)
    rw [kept] at confined
    refine confined.renumber fun matched => ?_
    have number := numbered errs
    rw [unnumbered, matched, Nat.zero_add] at number
    exact number
  · obtain ⟨set, kept⟩ := every mem
    exact Meeting.not_isInjected set (kept ▸ sound) (.inl (kept ▸ never))
  · obtain ⟨set, kept⟩ := every mem
    exact Meeting.isInjected set (kept ▸ sound) (kept ▸ always) errs
  · obtain ⟨set, kept⟩ := every mem
    have delayed := Meeting.exists_delayed set (kept ▸ sound)
    rwa [kept] at delayed

/-- Every request is failed that a route is for. -/
def sad : Config where
  server := { scenario := some .sadPath }
  generation := { seed := some 7 }
  scenarios := { slowMin := 1, slowMax := 2, errorProbability := Binary64.one }

/-- What `astray` asks for, with something to draw from. -/
def sadly : List Encounter := astray.map fun visit => ⟨visit, Cipher.ofSeed 1⟩

theorem course_confined_sadly : ∃ s s', create sad 0 ⟨0⟩ noted = .ok s ∧ create sad.plain 5 ⟨9⟩ noted = .ok s' ∧
    (∀ (i : Nat) (t : Meeting), (s.engine.course sadly)[i]? = some t →
      t.Confined .sadPath sad.scenarios.errorStatuses (Meeting.ordinal (s.engine.course sadly) i)) ∧
    ∀ t ∈ s.engine.course sadly, t.match?.isSome → t.client.IsInjected := by
  have accepted : (create sad 0 ⟨0⟩ noted).isOk := by decide +kernel
  have certain : sad.scenarios.errorProbability.eq Binary64.one := by decide +kernel
  cases created : create sad 0 ⟨0⟩ noted with
  | error e =>
    rw [created] at accepted
    cases accepted
  | ok s =>
    obtain ⟨s', created', confined⟩ := course_confined rfl rfl created 5 ⟨9⟩
    obtain ⟨-, each, -, -, injected, -⟩ := confined sadly
    exact ⟨s, s', rfl, created', each rfl, injected certain rfl⟩

end Session

end MockApi
