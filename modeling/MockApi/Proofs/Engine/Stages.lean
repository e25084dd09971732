import MockApi.Engine

/-!
# Stages of a request

All that a stage can do is listed once (`Engine.Passage`). Each stage brings a request nearer to its end,
so that `Engine.handle` takes every request to it, and none touches what the engine was set up with.
-/

namespace MockApi

/-- The most stages that a request still has before it. -/
def Stage.distance : Stage → Nat
  | arrived => 10
  | routing => 9
  | delaying _ => 8
  | risking .. => 7
  | checking .. => 6
  | answering .. => 5
  | making _ (.minting ..) _ => 4
  | making .. => 3
  | settled .. => 2
  | closing .. => 1
  | finished .. => 0

namespace Engine

/-- What a stage makes of an engine, and which stage is next. -/
inductive Passage (e : Engine) (now : Instant) (request : Request) : Stage → Engine → Stage → Prop
  | arrived : Passage e now request .arrived (e.recorded Stats.recordRequest) .routing
  | unmatched (absent : e.table.matchRequest request.method request.path = none) :
    Passage e now request .routing e (.settled (.notFound request.method request.path) 0)
  | matched {m : RouteMatch} (found : e.table.matchRequest request.method request.path = some m) :
    Passage e now request .routing e (.delaying m)
  | hasty {m : RouteMatch} (unset : e.config.server.scenario = none) :
    Passage e now request (.delaying m) e (.checking m 0)
  | undelayed {m : RouteMatch} {scenario : Scenario} {injector : Injector}
    (set : e.config.server.scenario = some scenario)
    (sampled : e.injector.sampleDelay scenario = (injector, none)) :
    Passage e now request (.delaying m) { e with injector } (.risking m 0)
  | delayed {m : RouteMatch} {scenario : Scenario} {injector : Injector} {delay : Nat}
    (set : e.config.server.scenario = some scenario)
    (sampled : e.injector.sampleDelay scenario = (injector, some delay)) :
    Passage e now request (.delaying m) ({ e with injector }.recorded Stats.recordInjectedDelay)
      (.risking m delay)
  | safe {m : RouteMatch} {delay : Nat} (unset : e.config.server.scenario = none) :
    Passage e now request (.risking m delay) e (.checking m delay)
  | spared {m : RouteMatch} {delay : Nat} {scenario : Scenario} {injector : Injector}
    (set : e.config.server.scenario = some scenario)
    (sampled : e.injector.sampleError scenario = (injector, none)) :
    Passage e now request (.risking m delay) { e with injector } (.checking m delay)
  | injected {m : RouteMatch} {delay : Nat} {scenario : Scenario} {injector : Injector}
    {error : Error} (set : e.config.server.scenario = some scenario)
    (sampled : e.injector.sampleError scenario = (injector, some error)) :
    Passage e now request (.risking m delay) { e with injector } (.settled (.injected error) delay)
  | rejected {m : RouteMatch} {delay : Nat} {failure : Validation.Failure}
    (fails : e.rejection m.route request.body = some failure) :
    Passage e now request (.checking m delay) e (.settled (.rejected failure) delay)
  | accepted {m : RouteMatch} {delay : Nat} (passes : e.rejection m.route request.body = none) :
    Passage e now request (.checking m delay) e (.answering m (delay + m.route.delay.getD 0))
  | begun {m : RouteMatch} {delay : Nat} {backend : Backend} {making : Making}
    (begins : e.backend.begin now m.route.source m.params request.body = (backend, making)) :
    Passage e now request (.answering m delay) { e with backend } (afterMaking m delay making)
  | advanced {m : RouteMatch} {delay : Nat} {backend : Backend} {making next : Making}
    (advances : e.backend.advance now making = (backend, next)) :
    Passage e now request (.making m making delay) { e with backend } (afterMaking m delay next)
  | counted {outcome : Outcome} {delay : Nat} :
    Passage e now request (.settled outcome delay) (e.recorded outcome.record)
      (.closing outcome.response delay)
  | timed {response : Response} {delay : Nat} :
    Passage e now request (.closing response delay)
      (e.recorded (·.recordLatency (delay * 10 ^ 6))) (.finished response delay)
  | rested {response : Response} {delay : Nat} :
    Passage e now request (.finished response delay) e (.finished response delay)

theorem passage_advance (e : Engine) (now : Instant) (request : Request) (stage : Stage) :
    Passage e now request stage (e.advance now request stage).1
      (e.advance now request stage).2 := by
  cases stage with
  | arrived => exact .arrived
  | routing =>
    simp only [advance]
    split
    · exact .unmatched ‹_›
    · exact .matched ‹_›
  | delaying m =>
    simp only [advance]
    split
    · exact .hasty ‹_›
    · split
      · exact .undelayed ‹_› ‹_›
      · exact .delayed ‹_› ‹_›
  | risking m delay =>
    simp only [advance]
    split
    · exact .safe ‹_›
    · split
      · exact .injected ‹_› ‹_›
      · exact .spared ‹_› ‹_›
  | checking m delay =>
    simp only [advance]
    split
    · exact .rejected ‹_›
    · exact .accepted ‹_›
  | answering m delay => exact .begun rfl
  | making m making delay => exact .advanced rfl
  | settled outcome delay => exact .counted
  | closing response delay => exact .timed
  | finished response delay => exact .rested

/-! ### The end is reached -/

theorem distance_afterMaking_le (m : RouteMatch) (delay : Nat) (making : Making) :
    (afterMaking m delay making).distance ≤ 4 := by
  cases making <;> simp [afterMaking, Stage.distance]

theorem Passage.distance_le {e e' : Engine} {now : Instant} {request : Request}
    {stage stage' : Stage} (passage : Passage e now request stage e' stage') :
    stage'.distance ≤ stage.distance - 1 := by
  cases passage with
  | begun begins => exact distance_afterMaking_le _ _ _
  | @advanced m delay backend making next advances =>
    cases making <;> cases advances <;> exact Nat.le_refl _
  | _ => simp [Stage.distance]

theorem eq_finished {stage : Stage} (near : stage.distance = 0) :
    ∃ response delay, stage = .finished response delay := by
  cases stage with
  | finished response delay => exact ⟨response, delay, rfl⟩
  | making m making delay => cases making <;> cases near
  | _ => cases near

theorem run_finishes {stage : Stage} {fuel : Nat} (near : stage.distance ≤ fuel) (e : Engine)
    (now : Instant) (request : Request) :
    ∃ response delay, (e.run now request fuel stage).2 = .finished response delay := by
  induction fuel generalizing e stage with
  | zero => exact eq_finished (Nat.le_zero.mp near)
  | succ fuel ih =>
    have nearer := (passage_advance e now request stage).distance_le
    exact ih (Nat.le_trans nearer (by omega)) _

/-- No request is left unfinished. -/
theorem run_stageLimit (e : Engine) (now : Instant) (request : Request) :
    e.run now request stageLimit .arrived = ((e.handle now request).1,
      .finished (e.handle now request).2.1 (e.handle now request).2.2) := by
  obtain ⟨response, delay, finished⟩ :=
    run_finishes (show Stage.arrived.distance ≤ stageLimit from Nat.le_refl _) e now request
  unfold handle
  rcases ran : e.run now request stageLimit .arrived with ⟨e', stage⟩
  rw [ran] at finished
  cases finished
  rfl

/-! ### What stays -/

/-- The engines have the same configuration, routes, options and prepared schemas. -/
structure SameSetup (e e' : Engine) : Prop where
  config : e'.config = e.config
  table : e'.table = e.table
  options : e'.backend.compiler.options = e.backend.compiler.options
  library : e'.backend.compiler.library = e.backend.compiler.library

namespace SameSetup

variable {a b c : Engine}

theorem refl (e : Engine) : SameSetup e e := ⟨rfl, rfl, rfl, rfl⟩

theorem trans (first : SameSetup a b) (second : SameSetup b c) : SameSetup a c where
  config := second.config.trans first.config
  table := second.table.trans first.table
  options := second.options.trans first.options
  library := second.library.trans first.library

end SameSetup

end Engine

namespace Backend

theorem newMembers_setup (b : Backend) (now : Instant) (r : Resource) (body : Option Json) :
    (b.newMembers now r body).1.compiler.options = b.compiler.options ∧
      (b.newMembers now r body).1.compiler.library = b.compiler.library := by
  cases body <;> exact ⟨rfl, rfl⟩

/-- Compiling takes a word of the source of seeds, and no more. -/
theorem begin_setup (b : Backend) (now : Instant) (source : ResponseSource) (params : Table String)
    (body : Option Json) :
    (b.begin now source params body).1.compiler.options = b.compiler.options ∧
      (b.begin now source params body).1.compiler.library = b.compiler.library := by
  cases source with
  | literal value => exact ⟨rfl, rfl⟩
  | generated document => exact ⟨rfl, rfl⟩
  | computed action r =>
    cases action with
    | list => exact ⟨rfl, rfl⟩
    | get => exact ⟨rfl, rfl⟩
    | delete => exact ⟨rfl, rfl⟩
    | create =>
      have kept := b.newMembers_setup now r body
      simp only [begin]
      split <;> (rename_i made; rw [made] at kept; exact kept)
    | replace =>
      simp only [begin]
      cases (body.map bodyMembers).getD (.ok []) <;> exact ⟨rfl, rfl⟩

theorem advance_compiler (b : Backend) (now : Instant) (making : Making) :
    (b.advance now making).1.compiler = b.compiler := by
  cases making <;> rfl

end Backend

namespace Engine

theorem Passage.sameSetup {e e' : Engine} {now : Instant} {request : Request}
    {stage stage' : Stage} (passage : Passage e now request stage e' stage') : SameSetup e e' := by
  cases passage with
  | @begun m delay backend making begins =>
    obtain ⟨options, library⟩ := e.backend.begin_setup now m.route.source m.params request.body
    rw [begins] at options library
    exact ⟨rfl, rfl, options, library⟩
  | @advanced m delay backend making next advances =>
    have compiler := e.backend.advance_compiler now making
    rw [advances] at compiler
    exact ⟨rfl, rfl, congrArg (·.options) compiler, congrArg (·.library) compiler⟩
  | _ => exact ⟨rfl, rfl, rfl, rfl⟩

end Engine

end MockApi
