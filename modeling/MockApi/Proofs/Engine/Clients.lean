import MockApi.Engine.Client
import MockApi.Proofs.Engine.Stages

/-!
# What becomes of requests

A request is matched in a table that is installed, or in none; it is injected, rejected or answered under
the route that it was matched with, and answered by the source of this route or by a function that was set
for it (`Outcome.Fits`). Each step of a client keeps what it has noted right (`Client.Sound`).
-/

namespace MockApi

/-! ### How bodies come about -/

def Making.isMade : Making → Bool
  | .made _ => true
  | _ => false

/-- A body is made in steps, and between these the backend may change in any way. -/
inductive Backend.Makes (source : ResponseSource) (params : Table String) (body : Option Json) :
    Making → Prop
  | begun (b : Backend) (now : Instant) : Makes source params body (b.begin now source params body).2
  | advanced {making : Making} (before : Makes source params body making) (b : Backend)
    (now : Instant) : Makes source params body (b.advance now making).2

/-! ### Outcomes -/

/-- The ways in which a request fails. -/
inductive Failing
  | notFound
  | injected
  | rejected
  | failed
deriving DecidableEq

def Outcome.failing? : Outcome → Option Failing
  | notFound .. => some .notFound
  | injected _ => some .injected
  | rejected _ => some .rejected
  | failed _ => some .failed
  | served _ => none

/-- What requests may meet: an engine as it was set up, the tables that are installed at some time, and
what functions answer in place of a source. -/
structure Setting where
  engine : Engine
  tables : RouteTable → Prop
  answers : Except Error Json → Prop

namespace Setting

/-- An engine whose routes may be any, and that no function answers for. -/
def anyRoutes (e : Engine) : Setting where
  engine := e
  tables _ := True
  answers _ := False

variable (s : Setting)

def Finds (request : Request) (m : RouteMatch) : Prop :=
  ∃ table, s.tables table ∧ table.matchRequest request.method request.path = some m

def Answers (request : Request) (m : RouteMatch) (result : Except Error Json) : Prop :=
  Backend.Makes m.route.source m.params request.body (.made result) ∨ s.answers result

/-- The engine has the configuration of this setting, and a table of it. -/
structure Allows (e : Engine) : Prop where
  config : e.config = s.engine.config
  table : s.tables e.table

variable {s} {e e' : Engine}

theorem Allows.passage {now : Instant} {request : Request} {stage stage' : Stage}
    (allows : s.Allows e) (passage : Engine.Passage e now request stage e' stage') :
    s.Allows e' where
  config := passage.sameSetup.config.trans allows.config
  table := passage.sameSetup.table ▸ allows.table

end Setting

/-- What may become of a request with such a match. -/
inductive Outcome.Fits (s : Setting) (request : Request) : Option RouteMatch → Outcome → Prop
  | notFound {table : RouteTable} (installed : s.tables table)
    (absent : table.matchRequest request.method request.path = none) :
    Fits s request none (.notFound request.method request.path)
  | injected {m : RouteMatch} {scenario : Scenario} {error : Error} (found : s.Finds request m)
    (set : s.engine.config.server.scenario = some scenario) (injects : scenario.injectsErrors) :
    Fits s request (some m) (.injected error)
  | rejected {m : RouteMatch} {failure : Validation.Failure} (found : s.Finds request m)
    (fails : s.engine.rejection m.route request.body = some failure) :
    Fits s request (some m) (.rejected failure)
  | failed {m : RouteMatch} {error : Error} (found : s.Finds request m)
    (answers : s.Answers request m (.error error)) : Fits s request (some m) (.failed error)
  | served {m : RouteMatch} {body : Json} (found : s.Finds request m)
    (answers : s.Answers request m (.ok body)) :
    Fits s request (some m)
      (.served { status := m.route.status, headers := m.route.headers, body })

variable {s : Setting} {e : Engine} {c : Client} {request : Request} {m : RouteMatch}

theorem Outcome.fits_outcomeOf {result : Except Error Json} (found : s.Finds request m)
    (answers : s.Answers request m result) :
    Fits s request (some m) (Engine.outcomeOf m.route result) := by
  cases result with
  | ok body => exact .served found answers
  | error error => exact .failed found answers

theorem Engine.rejection_congr {e e' : Engine} (config : e.config = e'.config) :
    e.rejection = e'.rejection := by
  funext route body
  simp only [rejection, config]

theorem Injector.injectsErrors_of_sampled {i i' : Injector} {scenario : Scenario} {error : Error}
    (sampled : i.sampleError scenario = (i', some error)) : scenario.injectsErrors := by
  unfold sampleError at sampled
  split at sampled
  · assumption
  · cases sampled

/-! ### The account of a client -/

namespace Client

/-- What a client has noted of its match and its outcome is so, and it has noted what it can know. -/
def Sound (s : Setting) (c : Client) : Prop :=
  match c.stage with
  | .arrived | .routing => c.matched = none ∧ c.outcome = none
  | .delaying m | .risking m _ | .checking m _ | .answering m _ =>
    c.matched = some m ∧ c.outcome = none ∧ s.Finds c.request m
  | .making m making _ => c.matched = some m ∧ c.outcome = none ∧ s.Finds c.request m ∧
    making.isMade = false ∧ Backend.Makes m.route.source m.params c.request.body making
  | .settled outcome _ => c.outcome = some outcome ∧ outcome.Fits s c.request c.matched
  | .closing response _ | .finished response _ =>
    ∃ outcome, c.outcome = some outcome ∧ outcome.response = response ∧
      outcome.Fits s c.request c.matched

theorem sound_start (s : Setting) (request : Request) : Sound s { request } := ⟨rfl, rfl⟩

theorem eq_start {requests : List Request} {i : Nat}
    (present : (requests.map fun request => ({ request } : Client))[i]? = some c) :
    ∃ request, c = { request } := by
  rw [List.getElem?_map] at present
  obtain ⟨request, -, rfl⟩ := Option.map_eq_some_iff.mp present
  exact ⟨request, rfl⟩

theorem sound_afterMaking {making : Making} (delay : Nat) (matched : c.matched = some m)
    (unknown : c.outcome = none) (found : s.Finds c.request m)
    (makes : Backend.Makes m.route.source m.params c.request.body making) :
    (c.goTo (Engine.afterMaking m delay making)).Sound s := by
  cases making with
  | minting r members => exact ⟨rfl, unknown, found, rfl, makes⟩
  | counting r members => exact ⟨rfl, unknown, found, rfl, makes⟩
  | made result => exact ⟨rfl, matched ▸ Outcome.fits_outcomeOf found (.inl makes)⟩

theorem Sound.goTo {e' : Engine} {now : Instant} {stage : Stage} (sound : c.Sound s)
    (allows : s.Allows e) (passage : Engine.Passage e now c.request c.stage e' stage) :
    (c.goTo stage).Sound s := by
  obtain ⟨request, before, matched, outcome⟩ := c
  dsimp only at passage
  cases passage with
  | arrived => exact sound
  | unmatched absent =>
    obtain ⟨rfl, rfl⟩ := sound
    exact ⟨rfl, .notFound allows.table absent⟩
  | matched found =>
    obtain ⟨rfl, rfl⟩ := sound
    exact ⟨rfl, rfl, e.table, allows.table, found⟩
  | hasty | undelayed | delayed | safe | spared | accepted =>
    obtain ⟨rfl, rfl, found⟩ := sound
    exact ⟨rfl, rfl, found⟩
  | injected set sampled =>
    obtain ⟨rfl, rfl, found⟩ := sound
    exact ⟨rfl, .injected found (allows.config ▸ set) (Injector.injectsErrors_of_sampled sampled)⟩
  | rejected fails =>
    obtain ⟨rfl, rfl, found⟩ := sound
    rw [Engine.rejection_congr allows.config] at fails
    exact ⟨rfl, .rejected found fails⟩
  | @begun m delay backend making begins =>
    obtain ⟨rfl, rfl, found⟩ := sound
    have makes : Backend.Makes m.route.source m.params request.body _ := .begun e.backend now
    rw [begins] at makes
    exact sound_afterMaking delay rfl rfl found makes
  | @advanced m delay backend making next advances =>
    obtain ⟨rfl, rfl, found, -, makes⟩ := sound
    have further := makes.advanced e.backend now
    rw [advances] at further
    exact sound_afterMaking delay rfl rfl found further
  | counted =>
    obtain ⟨rfl, fits⟩ := sound
    exact ⟨_, rfl, rfl, fits⟩
  | timed => exact sound
  | rested => exact sound

theorem Sound.serve (sound : c.Sound s) (allows : s.Allows e) (now : Instant) :
    (e.serve now c).2.Sound s :=
  sound.goTo allows (Engine.passage_advance e now c.request c.stage)

theorem Sound.serveWith {backend : Backend} {result : Except Error Json} (sound : c.Sound s)
    (answer : s.answers result) (e : Engine) :
    (e.serveWith backend result c).2.Sound s := by
  obtain ⟨request, stage, matched, outcome⟩ := c
  cases stage with
  | answering m delay =>
    obtain ⟨rfl, rfl, found⟩ := sound
    exact ⟨rfl, Outcome.fits_outcomeOf found (.inr answer)⟩
  | _ => exact sound

end Client

end MockApi
