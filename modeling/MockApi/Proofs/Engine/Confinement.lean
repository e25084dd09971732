import MockApi.Proofs.Engine.Injection
import MockApi.Proofs.Engine.Twins

/-!
# Scenarios beside the pipeline

Requests are handled one after the other, and before each of them the scenario is given a source of its own to draw from, so
that it may draw whatever it likes. A scenario that fails no request goes unnoticed but for delays (`Engine.Shadows.meet`);
any other one fails some of the matched requests, with errors that are numbered in the order of the requests, and leaves the
rest of them to the pipeline (`Meeting.confined`).
-/

namespace MockApi

/-- The configuration without a scenario. -/
def Config.plain (config : Config) : Config := { config with server := { config.server with scenario := none } }

/-- A visit, and what the scenario draws from in its course. -/
structure Encounter where
  visit : Visit
  source : Cipher

/-- An engine and the visit that comes to it. -/
structure Meeting where
  engine : Engine
  visit : Visit

theorem Outcome.record_injectedDelays (outcome : Outcome) (s : Stats) :
    (outcome.record s).injectedDelays = s.injectedDelays := by
  cases outcome <;> rfl

/-! ### Seen of a client -/

namespace Client

/-- The milliseconds that a request has waited. -/
def waited? (c : Client) : Option Nat :=
  match c.stage with
  | .finished _ delay => some delay
  | _ => none

def IsInjected (c : Client) : Prop := ∃ e, c.outcome = some (.injected e)

end Client

namespace Meeting

def after (t : Meeting) : Engine := (t.engine.receive t.visit).1

def client (t : Meeting) : Client := (t.engine.receive t.visit).2

def match? (t : Meeting) : Option RouteMatch := t.engine.table.matchRequest t.visit.request.method t.visit.request.path

/-- The visit, as it comes to an engine without a scenario. -/
def plain (t : Meeting) : Meeting := { t with engine := { t.engine with config := t.engine.config.plain } }

end Meeting

namespace Engine

/-- The meetings of requests that are handled one after the other. -/
def course (e : Engine) : List Encounter → List Meeting
  | [] => []
  | x :: encounters =>
    let t : Meeting := ⟨{ e with injector := { e.injector with source := x.source } }, x.visit⟩
    t :: course t.after encounters

/-! ### One visit -/

variable {e : Engine} {v : Visit} {m : RouteMatch}

theorem receive_unmatched (absent : e.table.matchRequest v.request.method v.request.path = none) : e.receive v =
    ((e.recorded Stats.recordRequest).close (.notFound v.request.method v.request.path) 0,
      .ended v.request none (.notFound v.request.method v.request.path) 0) := by
  rw [receive_eq, absent]

theorem receive_plain (unset : e.config.server.scenario = none)
    (found : e.table.matchRequest v.request.method v.request.path = some m) :
    e.receive v = (e.recorded Stats.recordRequest).answer v m 0 := by
  have tempted : (e.recorded Stats.recordRequest).tempt = (e.recorded Stats.recordRequest, 0, none) := by
    simp only [tempt, recorded, unset]
  rw [receive_eq, found, tempted]

/-- An engine that a scenario drew for. -/
def disturbed (e : Engine) (injector : Injector) (delay : Option Nat) : Engine :=
  { e with injector, stats := if delay.isSome then e.stats.recordInjectedDelay else e.stats }

theorem receive_scenario {scenario : Scenario} (set : e.config.server.scenario = some scenario)
    (sound : e.injector.bands.Sound) (found : e.table.matchRequest v.request.method v.request.path = some m) :
    ∃ injector delay error, Injector.Draws scenario e.injector injector delay error ∧
      e.receive v =
        let e := (e.recorded Stats.recordRequest).disturbed injector delay
        match error with
        | some error => (e.close (.injected error) (delay.getD 0),
            .ended v.request (some m) (.injected error) (delay.getD 0))
        | none => e.answer v m (delay.getD 0) := by
  have draws := Injector.draws_sample sound scenario
  have tempted : (e.recorded Stats.recordRequest).tempt =
      let delayed := e.injector.sampleDelay scenario
      let failed := delayed.1.sampleError scenario
      ((e.recorded Stats.recordRequest).disturbed failed.1 delayed.2, delayed.2.getD 0, failed.2) := by
    simp only [tempt, recorded, set, disturbed]
    rfl
  refine ⟨_, _, _, draws, ?_⟩
  rw [receive_eq, found, tempted]
  dsimp only
  cases ((e.injector.sampleDelay scenario).1.sampleError scenario).2 with
  | none => rfl
  | some error => rfl

end Engine

namespace Meeting

variable {t : Meeting} {scenario : Scenario}

/-! ### What a scenario may do -/

/-- What becomes of a request under a scenario: no route matches it, the rest of the pipeline answers it as it would without
the scenario, or the scenario fails it. In the first and the last case nothing that bodies are made with has changed. -/
inductive Confined (scenario : Scenario) (statuses : List Nat) (number : Nat) (t : Meeting) : Prop
  | unmatched (unmatched : t.match? = none) {response : Response} (answered : t.client.response? = some response)
    (told : response = .ofError (.routeNotFound t.visit.request.method.name t.visit.request.path))
    (status : response.status = 404) (untouched : t.after.backend = t.engine.backend)
  | answered (matched : t.match?.isSome) (same : t.client.outcome = t.plain.client.outcome)
    (answers : t.client.response? = t.plain.client.response?) (backend : t.after.backend = t.plain.after.backend)
  | injected (matched : t.match?.isSome) {status : Nat} (listed : status ∈ statuses) {response : Response}
    (answered : t.client.response? = some response) (tells : response.Tells scenario number status)
    (counted : t.client.IsInjected) (untouched : t.after.backend = t.engine.backend)

/-- A scenario lets just those requests wait that it should, in its band, and they wait for what their route asks for, too. -/
structure Delayed (scenario : Scenario) (bands : Config.Bands) (t : Meeting) (delay : Option Nat) : Prop where
  waits : delay.isSome ↔ t.match?.isSome ∧ scenario.injectsLatency
  within : ∀ d ∈ delay, bands.slowMin ≤ d ∧ d ≤ bands.slowMax
  counted : t.after.stats.injectedDelays = t.engine.stats.injectedDelays + delay.isSome.toNat
  injected : t.client.IsInjected → t.client.waited? = delay.getD 0
  answered : ¬t.client.IsInjected → ∃ own, t.plain.client.waited? = some own ∧ t.client.waited? = some (delay.getD 0 + own)

/-! ### What it does -/

/-- What is left to the pipeline looks at nothing of the scenario. -/
theorem answer_plain (found : t.match? = some m) (injector : Injector) (delay : Option Nat) :
    let answered := ((t.engine.recorded Stats.recordRequest).disturbed injector delay).answer t.visit m (delay.getD 0)
    answered.2.outcome = t.plain.client.outcome ∧ answered.2.response? = t.plain.client.response? ∧
      answered.1.backend = t.plain.after.backend ∧
      ∃ own, t.plain.client.waited? = some own ∧ answered.2.waited? = some (delay.getD 0 + own) := by
  have plain : t.plain.engine.receive t.visit = (t.plain.engine.recorded Stats.recordRequest).answer t.visit m 0 :=
    Engine.receive_plain rfl found
  have settled : ((t.engine.recorded Stats.recordRequest).disturbed injector delay).settle t.visit m =
      (t.plain.engine.recorded Stats.recordRequest).settle t.visit m := Engine.settle_congr rfl rfl ..
  have client : t.plain.client = ((t.plain.engine.recorded Stats.recordRequest).answer t.visit m 0).2 := congrArg Prod.snd plain
  have after : t.plain.after = ((t.plain.engine.recorded Stats.recordRequest).answer t.visit m 0).1 := congrArg Prod.fst plain
  rw [client, after]
  simp only [Engine.answer, settled]
  refine ⟨rfl, rfl, rfl, _, rfl, ?_⟩
  rw [Nat.zero_add]
  rfl

theorem not_isInjected_ended {request : Request} {matched : Option RouteMatch} {outcome : Outcome} {delay : Nat}
    (other : ∀ e, outcome ≠ .injected e) : ¬(Client.ended request matched outcome delay).IsInjected := by
  rintro ⟨e, same⟩
  exact other e (Option.some.inj same)

/-- No pipeline injects an error of its own. -/
theorem settle_ne_injected (e : Engine) (v : Visit) (m : RouteMatch) (error : Error) : (e.settle v m).2 ≠ .injected error := by
  unfold Engine.settle
  split
  · nofun
  · dsimp only
    generalize (Backend.advance _ _ _).2 = making
    cases making with
    | made result => cases result <;> nofun
    | minting | counting => nofun

section

variable (set : t.engine.config.server.scenario = some scenario) (sound : t.engine.injector.bands.Sound)
include set sound

theorem confined : t.Confined scenario t.engine.injector.bands.errorStatuses (t.engine.injector.numbered + 1) := by
  cases found : t.match? with
  | none =>
    have visited := Engine.receive_unmatched found
    have client : t.client = _ := congrArg Prod.snd visited
    have after : t.after = _ := congrArg Prod.fst visited
    exact .unmatched found (congrArg Client.response? client) rfl rfl
      ((congrArg Engine.backend after).trans rfl)
  | some m =>
    have matched : t.match?.isSome := by rw [found]; rfl
    obtain ⟨injector, delay, error, draws, visited⟩ := Engine.receive_scenario set sound found
    have client : t.client = _ := congrArg Prod.snd visited
    have after : t.after = _ := congrArg Prod.fst visited
    cases error with
    | none =>
      obtain ⟨outcome, answers, backend, -⟩ := answer_plain found injector delay
      exact .answered matched ((congrArg Client.outcome client).trans outcome)
        ((congrArg Client.response? client).trans answers) ((congrArg Engine.backend after).trans backend)
    | some error =>
      obtain ⟨status, listed, rfl⟩ := draws.told error rfl
      exact .injected matched listed (congrArg Client.response? client)
        (tells_injectedError scenario _ (sound.statuses status listed)) ⟨_, congrArg Client.outcome client⟩
        ((congrArg Engine.backend after).trans rfl)

theorem exists_delayed : ∃ delay, t.Delayed scenario t.engine.injector.bands delay := by
  cases found : t.match? with
  | none =>
    have visited := Engine.receive_unmatched found
    have client : t.client = _ := congrArg Prod.snd visited
    have after : t.after = _ := congrArg Prod.fst visited
    have plain : t.plain.client = _ := congrArg Prod.snd (Engine.receive_unmatched found)
    have spared : ¬t.client.IsInjected := client ▸ not_isInjected_ended nofun
    refine ⟨none, ⟨nofun, fun both => ?_⟩, nofun, congrArg (·.stats.injectedDelays) after, fun injected => absurd injected spared,
      fun _ => ⟨0, congrArg Client.waited? plain, congrArg Client.waited? client⟩⟩
    rw [found] at both
    cases both.1
  | some m =>
    obtain ⟨injector, delay, error, draws, visited⟩ := Engine.receive_scenario set sound found
    have client : t.client = _ := congrArg Prod.snd visited
    have after : t.after = _ := congrArg Prod.fst visited
    have counted : ((t.engine.recorded Stats.recordRequest).disturbed injector delay).stats.injectedDelays =
        t.engine.stats.injectedDelays + delay.isSome.toNat := by
      cases delay <;> rfl
    refine ⟨delay, by simp [found, draws.delays], draws.within, ?_, ?_, ?_⟩
    · rw [after, ← counted]
      cases error with
      | none => exact Outcome.record_injectedDelays ..
      | some error => rfl
    · intro injected
      cases error with
      | none =>
        rw [client] at injected
        exact absurd injected (not_isInjected_ended (settle_ne_injected _ _ _))
      | some error => exact congrArg Client.waited? client
    · intro spared
      cases error with
      | none =>
        obtain ⟨-, -, -, own, plain, waited⟩ := answer_plain found injector delay
        exact ⟨own, plain, (congrArg Client.waited? client).trans waited⟩
      | some error => exact absurd ⟨_, congrArg Client.outcome client⟩ spared

/-- Requests that might be failed are numbered, and the bands stay. -/
theorem after_injector : t.after.injector.bands = t.engine.injector.bands ∧
    t.after.injector.numbered = t.engine.injector.numbered + (t.match?.isSome && scenario.injectsErrors).toNat := by
  cases found : t.match? with
  | none =>
    have after : t.after = _ := congrArg Prod.fst (Engine.receive_unmatched found)
    rw [after]
    exact ⟨rfl, rfl⟩
  | some m =>
    obtain ⟨injector, delay, error, draws, visited⟩ := Engine.receive_scenario set sound found
    have after : t.after.injector = injector := by
      rw [show t.after = _ from congrArg Prod.fst visited]
      cases error <;> rfl
    rw [after]
    exact ⟨draws.bands, draws.numbered⟩

/-- With a probability of nought no error is injected, and none either if the scenario injects none. -/
theorem not_isInjected (never : t.engine.injector.bands.errorProbability.eq Binary64.zero ∨ scenario.injectsErrors = false) :
    ¬t.client.IsInjected := by
  cases found : t.match? with
  | none =>
    rw [show t.client = _ from congrArg Prod.snd (Engine.receive_unmatched found)]
    exact not_isInjected_ended nofun
  | some m =>
    obtain ⟨injector, delay, error, draws, visited⟩ := Engine.receive_scenario set sound found
    have none_told : error = none := by
      rcases never with nought | peaceful
      · exact draws.never nought
      · rw [← Option.not_isSome_iff_eq_none]
        exact fun told => absurd (draws.fails told) (by simp [peaceful])
    subst none_told
    rw [show t.client = _ from congrArg Prod.snd visited]
    exact not_isInjected_ended (settle_ne_injected _ _ _)

/-- With a probability of one every matched request gets an error, if the scenario injects any. -/
theorem isInjected (always : t.engine.injector.bands.errorProbability.eq Binary64.one) (errs : scenario.injectsErrors)
    (matched : t.match?.isSome) : t.client.IsInjected := by
  obtain ⟨m, found⟩ := Option.isSome_iff_exists.mp matched
  obtain ⟨injector, delay, error, draws, visited⟩ := Engine.receive_scenario set sound found
  obtain ⟨error, rfl⟩ := Option.isSome_iff_exists.mp (draws.always always errs)
  exact ⟨error, congrArg (·.2.outcome) visited⟩

end

end Meeting

end MockApi
