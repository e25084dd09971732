import MockApi.Proofs.Engine.Storage
import MockApi.Proofs.Engine.Visits

/-!
# Twins

Two engines are twins if nothing that a response is made from tells them apart: the configuration, the
routes, the options and the seeds of the compiler, and the store. What scenarios draw from, what random
identifiers are drawn from, the statistics and the prepared schemas may differ. Twins answer alike and
stay twins (`Engine.Twins.receive`): their responses differ in stamps and drawn identifiers at most.
-/

namespace MockApi

/-! ### Alike answers -/

namespace Backend

/-- The bodies differ in what a resource is stamped with, and in its identifier if that is drawn. -/
inductive Alike : Json → Json → Prop
  | same (body : Json) : Alike body body
  | created {r : Resource} {members : Table Json} {id id' : Json} (now now' : Instant)
    (drawn : id = id' ∨ r.idKind = .uuid) :
    Alike (success ("Created " ++ r.label) [("data", .object (createdMembers id now members))])
      (success ("Created " ++ r.label) [("data", .object (createdMembers id' now' members))])
  | replaced {r : Resource} {members : Table Json} {id : String} (now now' : Instant) :
    Alike (success ("Updated " ++ r.label ++ " " ++ id)
        [("data", .object (replacedMembers id now members))])
      (success ("Updated " ++ r.label ++ " " ++ id)
        [("data", .object (replacedMembers id now' members))])

end Backend

inductive Making.Alike : Making → Making → Prop
  | minting (r : Resource) (members : Table Json) : Alike (.minting r members) (.minting r members)
  | counting {r : Resource} {members : Table Json} {id id' : Json} (now now' : Instant)
    (drawn : id = id' ∨ r.idKind = .uuid) :
    Alike (.counting r (Backend.createdMembers id now members))
      (.counting r (Backend.createdMembers id' now' members))
  | failed (e : Error) : Alike (.made (.error e)) (.made (.error e))
  | answered {body body' : Json} (alike : Backend.Alike body body') :
    Alike (.made (.ok body)) (.made (.ok body'))

theorem Making.Alike.made (result : Except Error Json) : Alike (.made result) (.made result) := by
  cases result with
  | error e => exact .failed e
  | ok body => exact .answered (.same body)

structure Response.Alike (r r' : Response) : Prop where
  status : r.status = r'.status
  headers : r.headers = r'.headers
  body : Backend.Alike r.body r'.body

theorem Response.Alike.refl (r : Response) : Alike r r := ⟨rfl, rfl, .same _⟩

/-- Requests that have come equally far, with like answers. Those of a delay may have waited for
different times. -/
inductive Stage.Abreast : Stage → Stage → Prop
  | arrived : Abreast .arrived .arrived
  | routing : Abreast .routing .routing
  | delaying (m : RouteMatch) : Abreast (.delaying m) (.delaying m)
  | risking (m : RouteMatch) (delay delay' : Nat) : Abreast (.risking m delay) (.risking m delay')
  | checking (m : RouteMatch) (delay delay' : Nat) : Abreast (.checking m delay) (.checking m delay')
  | answering (m : RouteMatch) (delay delay' : Nat) :
    Abreast (.answering m delay) (.answering m delay')
  | making (m : RouteMatch) {body body' : Making} (alike : body.Alike body') (delay delay' : Nat) :
    Abreast (.making m body delay) (.making m body' delay')
  | settled {outcome outcome' : Outcome} (alike : outcome.response.Alike outcome'.response)
    (delay delay' : Nat) : Abreast (.settled outcome delay) (.settled outcome' delay')
  | closing {response response' : Response} (alike : response.Alike response')
    (delay delay' : Nat) : Abreast (.closing response delay) (.closing response' delay')
  | finished {response response' : Response} (alike : response.Alike response')
    (delay delay' : Nat) : Abreast (.finished response delay) (.finished response' delay')

/-! ### Twins -/

structure Compiler.Twins (c c' : Compiler) : Prop where
  options : c.options = c'.options
  parent : c.parent = c'.parent

structure Backend.Twins (b b' : Backend) : Prop where
  compiler : b.compiler.Twins b'.compiler
  store : b.store = b'.store

structure Engine.Twins (e e' : Engine) : Prop where
  config : e.config = e'.config
  table : e.table = e'.table
  backend : e.backend.Twins e'.backend

namespace Compiler.Twins

variable {c c' : Compiler}

theorem plan (twins : c.Twins c') (now : Instant) (document : Schema.Document) :
    (c.plan now document : Generation.Plan Cipher) = c'.plan now document := by
  rw [Compiler.plan, Compiler.plan, twins.options]

theorem run {α : Type} (twins : c.Twins c') (g : Generation.Generate Cipher α) :
    (c.run g).1.Twins (c'.run g).1 ∧ (c.run g).2 = (c'.run g).2 := by
  simp only [Compiler.run, Compiler.child, twins.parent]
  exact ⟨⟨twins.options, rfl⟩, rfl⟩

theorem compile (twins : c.Twins c') (now : Instant) (document : Schema.Document) :
    (c.compile now document).1.Twins (c'.compile now document).1 ∧
      (c.compile now document).2 = (c'.compile now document).2 := by
  simp only [Compiler.compile, compileNode, twins.plan]
  exact twins.run _

end Compiler.Twins

namespace Backend.Twins

variable {b b' : Backend}

theorem compiled {α β : Type} {result result' : Compiler × Except Generation.Fault α}
    (twins : b.Twins b') (alike : result.1.Twins result'.1 ∧ result.2 = result'.2) (f : α → β) :
    (b.compiled result f).1.Twins (b'.compiled result' f).1 ∧
      (b.compiled result f).2 = (b'.compiled result' f).2 :=
  ⟨⟨alike.1, twins.store⟩, by rw [Backend.compiled, Backend.compiled, alike.2]⟩

theorem newMembers (twins : b.Twins b') (now : Instant) (r : Resource) (body : Option Json) :
    (b.newMembers now r body).1.Twins (b'.newMembers now r body).1 ∧
      (b.newMembers now r body).2 = (b'.newMembers now r body).2 := by
  cases body with
  | some body => exact ⟨twins, rfl⟩
  | none => exact twins.compiled (twins.compiler.compile now r.document) _

/-- Twins begin a body in the same way. Only a replacement looks at the stamp, and at nothing else of the
clock. -/
theorem begin (twins : b.Twins b') {now now' : Instant} {source : ResponseSource}
    (dates : source.action? ≠ some .replace → now = now') (params : Table String)
    (body : Option Json) :
    (b.begin now source params body).1.Twins (b'.begin now' source params body).1 ∧
      (b.begin now source params body).2.Alike (b'.begin now' source params body).2 := by
  have made {b₁ b₂ : Backend} {result result' : Except Error Json}
      (alike : b₁.Twins b₂ ∧ result = result') :
      b₁.Twins b₂ ∧ (Making.made result).Alike (.made result') :=
    ⟨alike.1, alike.2 ▸ .made result⟩
  cases source with
  | literal value => exact made ⟨twins, rfl⟩
  | generated document =>
    obtain rfl := dates (by simp [ResponseSource.action?])
    exact made (twins.compiled (twins.compiler.compile now document) id)
  | computed action r =>
    cases action with
    | list =>
      obtain rfl := dates (by simp [ResponseSource.action?])
      simp only [Backend.begin, twins.compiler.plan]
      exact made (twins.compiled (twins.compiler.run _) (listBody r))
    | get =>
      obtain rfl := dates (by simp [ResponseSource.action?])
      exact made (twins.compiled (twins.compiler.compile now r.document) _)
    | delete => exact made ⟨{ twins with store := congrArg Store.recordDelete twins.store }, rfl⟩
    | create =>
      obtain rfl := dates (by simp [ResponseSource.action?])
      have alike := twins.newMembers now r body
      simp only [Backend.begin]
      rcases begun : b.newMembers now r body with ⟨b₁, result⟩
      rcases begun' : b'.newMembers now r body with ⟨b₂, result'⟩
      rw [begun, begun'] at alike
      obtain ⟨kept, found⟩ := alike
      obtain rfl : result = result' := found
      cases result with
      | ok members => exact ⟨kept, .minting r members⟩
      | error e => exact ⟨kept, .failed e⟩
    | replace =>
      simp only [Backend.begin]
      cases (body.map bodyMembers).getD (.ok []) with
      | error e => exact ⟨twins, .failed e⟩
      | ok members =>
        exact ⟨{ twins with store := congrArg Store.recordUpdate twins.store },
          .answered (.replaced now now')⟩

theorem advance (twins : b.Twins b') (now now' : Instant) {making making' : Making}
    (alike : making.Alike making') :
    (b.advance now making).1.Twins (b'.advance now' making').1 ∧
      (b.advance now making).2.Alike (b'.advance now' making').2 := by
  cases alike with
  | minting r members =>
    obtain ⟨entropy, id, issues, shows⟩ := b.advance_minting now r members
    obtain ⟨entropy', id', issues', shows'⟩ := b'.advance_minting now' r members
    rw [issues, issues']
    rw [← twins.store] at shows'
    exact ⟨⟨twins.compiler, by rw [twins.store]⟩, .counting now now' (shows.same shows')⟩
  | counting _ _ drawn =>
    exact ⟨{ twins with store := congrArg Store.recordCreate twins.store },
      .answered (.created _ _ drawn)⟩
  | failed e => exact ⟨twins, .failed e⟩
  | answered alike => exact ⟨twins, .answered alike⟩

end Backend.Twins

/-! ### Calm engines -/

/-- Whatever is drawn, the scenario fails no request. -/
def Scenario.InjectsNone (scenario : Scenario) (bands : Config.Bands) : Prop :=
  ∀ numbered source, (Injector.sampleError ⟨bands, numbered, source⟩ scenario).2 = none

theorem Scenario.injectsNone_of_injectsErrors {scenario : Scenario}
    (never : scenario.injectsErrors = false) (bands : Config.Bands) : scenario.InjectsNone bands := by
  intro numbered source
  rw [Injector.sampleError, never, if_neg Bool.false_ne_true]

namespace Injector

theorem sampleDelay_bands (i : Injector) (scenario : Scenario) :
    (i.sampleDelay scenario).1.bands = i.bands := by
  unfold sampleDelay
  split <;> rfl

theorem sampleError_bands (i : Injector) (scenario : Scenario) :
    (i.sampleError scenario).1.bands = i.bands := by
  unfold sampleError
  split <;> rfl

end Injector

namespace Engine

/-- The scenario, if there is one, fails no request. -/
def IsCalm (e : Engine) : Prop :=
  ∀ scenario, e.config.server.scenario = some scenario → scenario.InjectsNone e.injector.bands

theorem Passage.bands {e e' : Engine} {now : Instant} {request : Request} {stage stage' : Stage}
    (passage : Passage e now request stage e' stage') : e'.injector.bands = e.injector.bands := by
  cases passage with
  | @undelayed m scenario injector set sampled =>
    have kept := e.injector.sampleDelay_bands scenario
    rwa [sampled] at kept
  | @delayed m scenario injector delay set sampled =>
    have kept := e.injector.sampleDelay_bands scenario
    rwa [sampled] at kept
  | @spared m delay scenario injector set sampled =>
    have kept := e.injector.sampleError_bands scenario
    rwa [sampled] at kept
  | @injected m delay scenario injector error set sampled =>
    have kept := e.injector.sampleError_bands scenario
    rwa [sampled] at kept
  | _ => rfl

namespace IsCalm

variable {e : Engine}

theorem passage {e' : Engine} {now : Instant} {request : Request} {stage stage' : Stage}
    (calm : e.IsCalm) (passage : Passage e now request stage e' stage') : e'.IsCalm := by
  intro scenario set
  rw [passage.bands]
  exact calm scenario (passage.sameSetup.config ▸ set)

theorem attend (calm : e.IsCalm) (v : Visit) (fuel : Nat) (c : Client) :
    (e.attend v fuel c).1.IsCalm := by
  induction fuel generalizing e c with
  | zero => exact calm
  | succ fuel ih => exact ih (calm.passage (passage_advance ..)) _

theorem advance_risking (calm : e.IsCalm) (now : Instant) (request : Request) (m : RouteMatch)
    (delay : Nat) : ∃ injector,
      e.advance now request (.risking m delay) = ({ e with injector }, .checking m delay) := by
  simp only [advance]
  split
  · exact ⟨e.injector, rfl⟩
  · rename_i scenario set
    have none := calm scenario set e.injector.numbered e.injector.source
    split
    · rename_i sampled
      rw [sampled] at none
      cases none
    · rename_i injector sampled
      exact ⟨injector, rfl⟩

end IsCalm

/-! ### Twin engines -/

theorem abreast_afterMaking {making making' : Making} (alike : making.Alike making')
    (m : RouteMatch) (delay delay' : Nat) :
    (afterMaking m delay making).Abreast (afterMaking m delay' making') := by
  cases alike with
  | minting r members => exact .making m (.minting r members) delay delay'
  | counting now now' drawn => exact .making m (.counting now now' drawn) delay delay'
  | failed e => exact .settled (.refl _) delay delay'
  | @answered body body' alike =>
    show (Stage.settled (outcomeOf m.route (.ok body)) delay).Abreast
      (.settled (outcomeOf m.route (.ok body')) delay')
    have served : (outcomeOf m.route (.ok body)).response.Alike
        (outcomeOf m.route (.ok body')).response := ⟨rfl, rfl, alike⟩
    exact .settled served delay delay'

/-- A scenario waits or does not wait. -/
theorem advance_delaying {e : Engine} {scenario : Scenario}
    (set : e.config.server.scenario = some scenario) (now : Instant) (request : Request)
    (m : RouteMatch) : ∃ injector stats delay, e.advance now request (.delaying m) =
      ({ e with injector, stats }, .risking m delay) := by
  simp only [advance, set]
  rcases e.injector.sampleDelay scenario with ⟨injector, _ | delay⟩
  · exact ⟨injector, e.stats, 0, rfl⟩
  · exact ⟨injector, e.stats.recordInjectedDelay, delay, rfl⟩

namespace Twins

variable {e e' : Engine} {v v' : Visit}

/-- The visits are of one request and read the same dates. -/
theorem advance (twins : e.Twins e') (calm : e.IsCalm) (calm' : e'.IsCalm) {stage stage' : Stage}
    (abreast : stage.Abreast stage') (request : Request) (dates : v.dates = v'.dates) :
    (e.advance (v.reading stage) request stage).1.Twins
        (e'.advance (v'.reading stage') request stage').1 ∧
      (e.advance (v.reading stage) request stage).2.Abreast
        (e'.advance (v'.reading stage') request stage').2 := by
  obtain ⟨config, table, backend⟩ := twins
  cases abreast with
  | arrived => exact ⟨⟨config, table, backend⟩, .routing⟩
  | routing =>
    simp only [Engine.advance, ← table]
    cases e.table.matchRequest request.method request.path with
    | none => exact ⟨⟨config, table, backend⟩, .settled (.refl _) 0 0⟩
    | some m => exact ⟨⟨config, table, backend⟩, .delaying m⟩
  | delaying m =>
    cases set : e.config.server.scenario with
    | none =>
      simp only [Engine.advance, set, config ▸ set]
      exact ⟨⟨config, table, backend⟩, .checking m 0 0⟩
    | some scenario =>
      -- one may wait and the other not, since they draw on their own
      obtain ⟨injector, stats, delay, waits⟩ := advance_delaying set v.dates request m
      obtain ⟨injector', stats', delay', waits'⟩ := advance_delaying (config ▸ set) v'.dates request m
      simp only [Visit.reading, waits, waits']
      exact ⟨⟨config, table, backend⟩, .risking m delay delay'⟩
  | risking m delay delay' =>
    obtain ⟨injector, spared⟩ := calm.advance_risking v.dates request m delay
    obtain ⟨injector', spared'⟩ := calm'.advance_risking v'.dates request m delay'
    simp only [Visit.reading, spared, spared']
    exact ⟨⟨config, table, backend⟩, .checking m delay delay'⟩
  | checking m delay delay' =>
    simp only [Engine.advance, ← rejection_congr config]
    cases e.rejection m.route request.body with
    | none => exact ⟨⟨config, table, backend⟩, .answering m _ _⟩
    | some failure => exact ⟨⟨config, table, backend⟩, .settled (.refl _) delay delay'⟩
  | answering m delay delay' =>
    have readings : m.route.source.action? ≠ some .replace →
        v.reading (.answering m delay) = v'.reading (.answering m delay') := by
      intro other
      simp only [Visit.reading]
      split
      · rename_i r replaces
        rw [replaces] at other
        exact absurd rfl other
      · exact dates
    obtain ⟨kept, alike⟩ := backend.begin readings m.params request.body
    exact ⟨⟨config, table, kept⟩, abreast_afterMaking alike m delay delay'⟩
  | making m alike delay delay' =>
    obtain ⟨kept, alike⟩ := backend.advance v.stamp v'.stamp alike
    exact ⟨⟨config, table, kept⟩, abreast_afterMaking alike m delay delay'⟩
  | settled alike delay delay' => exact ⟨⟨config, table, backend⟩, .closing alike _ _⟩
  | closing alike delay delay' => exact ⟨⟨config, table, backend⟩, .finished alike _ _⟩
  | finished alike delay delay' => exact ⟨⟨config, table, backend⟩, .finished alike _ _⟩

theorem attend (twins : e.Twins e') (calm : e.IsCalm) (calm' : e'.IsCalm)
    (dates : v.dates = v'.dates) (fuel : Nat) {c c' : Client} (request : c.request = c'.request)
    (abreast : c.stage.Abreast c'.stage) :
    (e.attend v fuel c).1.Twins (e'.attend v' fuel c').1 ∧
      (e.attend v fuel c).2.stage.Abreast (e'.attend v' fuel c').2.stage := by
  induction fuel generalizing e e' c c' with
  | zero => exact ⟨twins, abreast⟩
  | succ fuel ih =>
    obtain ⟨twins', abreast'⟩ := twins.advance calm calm' abreast c.request dates
    have step : (e'.serve (v'.reading c'.stage) c') =
        ((e'.advance (v'.reading c'.stage) c.request c'.stage).1,
          c'.goTo (e'.advance (v'.reading c'.stage) c.request c'.stage).2) := by
      rw [request]
      rfl
    rw [Engine.attend, Engine.attend, step]
    exact ih twins' (calm.passage (passage_advance ..)) (calm'.passage (passage_advance ..)) request
      abreast'

/-- Twins answer alike and stay twins. -/
theorem receive (twins : e.Twins e') (calm : e.IsCalm) (calm' : e'.IsCalm)
    (request : v.request = v'.request) (dates : v.dates = v'.dates) :
    (e.receive v).1.Twins (e'.receive v').1 ∧
      ∃ response response', (e.receive v).2.response? = some response ∧
        (e'.receive v').2.response? = some response' ∧ response.Alike response' := by
  have start : Client.request { request := v.request } = Client.request { request := v'.request } :=
    request
  obtain ⟨kept, abreast⟩ := twins.attend calm calm' dates stageLimit start .arrived
  obtain ⟨response, delay, finished⟩ := e.receive_finishes v
  obtain ⟨response', delay', finished'⟩ := e'.receive_finishes v'
  rw [Engine.receive] at finished finished'
  rw [finished, finished'] at abreast
  cases abreast with
  | finished alike =>
    exact ⟨kept, response, response', congrArg Stage.response? finished,
      congrArg Stage.response? finished', alike⟩

/-- A request that is refused makes no difference to a twin. -/
theorem receive_refused (twins : e.Twins e') (refused : (e.receive v).2.isRefused) :
    (e.receive v).1.Twins e' := by
  have same := e.attend_sameSetup v stageLimit { request := v.request }
  exact {
    config := same.config.trans twins.config
    table := same.table.trans twins.table
    backend := (Engine.receive_refused refused) ▸ twins.backend }

end Twins

end Engine

end MockApi
