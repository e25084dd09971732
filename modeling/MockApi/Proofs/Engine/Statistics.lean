import Mathlib.Logic.ExistsUnique
import MockApi.Proofs.Engine.Clients

/-!
# Statistics account for requests

At every moment each counter is the number of requests that have come past the place where it counts
(`Clients.Accounted`). From this follows what is true when no request is on its way: each of them was
counted once on its arrival, once at its end, and once where it failed (`Clients.run_statistics`).
-/

namespace MockApi

/-! ### Counters -/

namespace Stats

def count (s : Stats) : Failing → Nat
  | .notFound => s.notFound
  | .injected => s.injectedErrors
  | .rejected => s.validationRejections
  | .failed => s.handlerFailures

/-- Outcomes of a kind are counted when they are recorded, and nothing else is. -/
structure Counts (count : Stats → Nat) (kind : Outcome → Bool) : Prop where
  fresh : count {} = 0
  record (outcome : Outcome) (s : Stats) :
    count (outcome.record s) = count s + (kind outcome).toNat
  request (s : Stats) : count s.recordRequest = count s
  delay (s : Stats) : count s.recordInjectedDelay = count s
  latency (s : Stats) (nanos : Nat) : count (s.recordLatency nanos) = count s

theorem counts_failing (way : Failing) :
    Counts (·.count way) fun outcome => outcome.failing? = some way where
  fresh := by cases way <;> rfl
  record outcome s := by cases outcome <;> cases way <;> rfl
  request s := by cases way <;> rfl
  delay s := by cases way <;> rfl
  latency s nanos := by cases way <;> rfl

theorem counts_failed : Counts failed fun outcome => outcome.failing?.isSome where
  fresh := rfl
  record outcome s := by
    cases outcome <;>
      simp only [Outcome.record, Outcome.failing?, failed, recordNotFound, recordInjectedError,
        recordRejection, recordFailure, Option.isSome_some, Option.isSome_none, Bool.toNat_true,
        Bool.toNat_false] <;>
      omega
  request _ := rfl
  delay _ := rfl
  latency _ _ := rfl

end Stats

/-! ### Requests that are counted -/

namespace Client

/-- The outcome, from when it is counted. -/
def counted? (c : Client) : Option Outcome :=
  match c.stage with
  | .closing .. | .finished .. => c.outcome
  | _ => none

/-- Whether the request is past the stage where it may be delayed. -/
def isPastDelay (c : Client) : Bool :=
  match c.stage with
  | .arrived | .routing | .delaying _ => false
  | _ => true

def hasFailed (c : Client) : Bool := c.counted?.any (·.failing?.isSome)

def hasFailedBy (way : Failing) (c : Client) : Bool := c.counted?.any (·.failing? = some way)

def isServed (c : Client) : Bool := c.counted?.any (·.failing?.isNone)

theorem hasBegun_of_isPastDelay {c : Client} (past : c.isPastDelay) : c.hasBegun := by
  obtain ⟨request, stage, matched, outcome⟩ := c
  cases stage <;> first | rfl | cases past

theorem hasBegun_of_hasEnded {c : Client} (ended : c.hasEnded) : c.hasBegun := by
  obtain ⟨request, stage, matched, outcome⟩ := c
  cases stage <;> first | rfl | cases ended

theorem hasBegun_of_hasFailed {c : Client} (failed : c.hasFailed) : c.hasBegun := by
  obtain ⟨request, stage, matched, outcome⟩ := c
  cases stage <;> first | rfl | cases failed

/-- A client that is being answered has begun and is not at its end, and so is it when the answer is
known. -/
theorem goTo_afterMaking (c : Client) (m : RouteMatch) (delay : Nat) (making : Making) :
    let c' := c.goTo (Engine.afterMaking m delay making)
    c'.hasBegun = true ∧ c'.hasEnded = false ∧ c'.isPastDelay = true ∧ c'.counted? = none := by
  cases making <;> exact ⟨rfl, rfl, rfl, rfl⟩

end Client

/-! ### One step -/

/-- A step of one client, in what it means to the statistics. -/
structure Client.Moves (s : Setting) (e : Engine) (c : Client) (e' : Engine) (c' : Client) :
    Prop where
  config : e'.config = e.config
  table : e'.table = e.table
  sound : c'.Sound s
  total : e'.stats.totalRequests + c.hasBegun.toNat =
    e.stats.totalRequests + c'.hasBegun.toNat
  latency : e'.stats.latencies.count + c.hasEnded.toNat =
    e.stats.latencies.count + c'.hasEnded.toNat
  delays : e'.stats.injectedDelays + c.isPastDelay.toNat ≤
    e.stats.injectedDelays + c'.isPastDelay.toNat
  failures : ∀ {count kind}, Stats.Counts count kind →
    count e'.stats + (c.counted?.any kind).toNat = count e.stats + (c'.counted?.any kind).toNat

namespace Engine

variable {s : Setting} {e e' : Engine} {now : Instant} {c : Client} {stage : Stage}

theorem Passage.moves (sound : c.Sound s) (allows : s.Allows e)
    (passage : Passage e now c.request c.stage e' stage) : c.Moves s e e' (c.goTo stage) where
  config := passage.sameSetup.config
  table := passage.sameSetup.table
  sound := sound.goTo allows passage
  total := by
    obtain ⟨request, before, matched, outcome⟩ := c
    dsimp only at passage
    cases passage with
    | begun begins => rw [(Client.goTo_afterMaking ..).1]; rfl
    | advanced advances => rw [(Client.goTo_afterMaking ..).1]; rfl
    | @counted outcome => cases outcome <;> rfl
    | _ => rfl
  latency := by
    obtain ⟨request, before, matched, outcome⟩ := c
    dsimp only at passage
    cases passage with
    | begun begins => rw [(Client.goTo_afterMaking ..).2.1]; rfl
    | advanced advances => rw [(Client.goTo_afterMaking ..).2.1]; rfl
    | @counted outcome => cases outcome <;> rfl
    | _ => rfl
  delays := by
    obtain ⟨request, before, matched, outcome⟩ := c
    dsimp only at passage
    cases passage with
    | begun begins => rw [(Client.goTo_afterMaking ..).2.2.1]; exact Nat.le_refl _
    | advanced advances => rw [(Client.goTo_afterMaking ..).2.2.1]; exact Nat.le_refl _
    | @counted outcome => cases outcome <;> exact Nat.le_refl _
    | unmatched | hasty | undelayed => exact Nat.le_succ _
    | _ => exact Nat.le_refl _
  -- an outcome is counted in the stage after the one where it was found, and only there
  failures counts := by
    obtain ⟨request, before, matched, outcome⟩ := c
    dsimp only at passage
    cases passage with
    | arrived => exact counts.request _
    | delayed => exact counts.delay _
    | begun begins => rw [(Client.goTo_afterMaking ..).2.2.2]; rfl
    | advanced advances => rw [(Client.goTo_afterMaking ..).2.2.2]; rfl
    | counted =>
      obtain ⟨rfl, -⟩ := sound
      exact counts.record _ _
    | timed => exact congrArg (· + _) (counts.latency _ _)
    | _ => rfl

theorem moves_serve (sound : c.Sound s) (allows : s.Allows e) (now : Instant) :
    c.Moves s e (e.serve now c).1 (e.serve now c).2 :=
  (passage_advance e now c.request c.stage).moves sound allows

theorem moves_serveWith {backend : Backend} {result : Except Error Json} (sound : c.Sound s)
    (answer : s.answers result) :
    c.Moves s e (e.serveWith backend result c).1 (e.serveWith backend result c).2 := by
  have kept : (e.serveWith backend result c).2.Sound s := sound.serveWith answer e
  obtain ⟨request, stage, matched, outcome⟩ := c
  cases stage <;> exact ⟨rfl, rfl, kept, rfl, rfl, Nat.le_refl _, fun _ => rfl⟩

end Engine

/-! ### All clients -/

namespace Clients

/-- What a client may meet in the course of these events. -/
def setting (e : Engine) (events : List Event) (i : Nat) : Setting where
  engine := e
  tables table := table = e.table ∨ .install table ∈ events
  answers result := ∃ backend, .serveWith i backend result ∈ events

/-- The statistics are what they should be for these clients, and what the clients tell is so. -/
structure Accounted (setting : Nat → Setting) (t : Clients) : Prop where
  allows : ∀ i, (setting i).Allows t.shared
  sound : ∀ (i : Nat) (c : Client), t.parties[i]? = some c → c.Sound (setting i)
  total : t.shared.stats.totalRequests = t.parties.countP (·.hasBegun)
  latency : t.shared.stats.latencies.count = t.parties.countP (·.hasEnded)
  delays : t.shared.stats.injectedDelays ≤ t.parties.countP (·.isPastDelay)
  failures : ∀ {count kind}, Stats.Counts count kind →
    count t.shared.stats = t.parties.countP (·.counted?.any kind)

variable {e : Engine} {events : List Event} {t : Clients}

theorem accounted_start (fresh : e.stats = {}) (requests : List Request) (events : List Event) :
    Accounted (setting e events) (start e requests) where
  allows _ := ⟨rfl, .inl rfl⟩
  sound i c present := by
    obtain ⟨request, rfl⟩ := Client.eq_start present
    exact Client.sound_start _ request
  total := by
    simp [start, fresh, List.countP_map, Function.comp_def, Client.hasBegun]
  latency := by
    simp [start, fresh, List.countP_map, Function.comp_def, Client.hasEnded, Client.response?,
      Stage.response?]
  delays := by simp [start, fresh]
  failures counts := by
    simp [start, fresh, counts.fresh, List.countP_map, Function.comp_def, Client.counted?]

namespace Accounted

variable {settings : Nat → Setting}

theorem move {i : Nat} {act : Engine → Client → Engine × Client} (accounted : Accounted settings t)
    (moves : ∀ c, t.parties[i]? = some c → c.Sound (settings i) →
      c.Moves (settings i) t.shared (act t.shared c).1 (act t.shared c).2) :
    Accounted settings (t.move i act) := by
  have step (c : Client) (present : t.parties[i]? = some c) :=
    moves c present (accounted.sound i c present)
  refine ⟨fun j => ?_, ?_, ?_, ?_, ?_, fun {count} {kind} kinds => ?_⟩
  · refine Crowd.shared_move (accounted.allows j) fun c present => ⟨?_, ?_⟩
    · rw [(step c present).config]
      exact (accounted.allows j).config
    · rw [(step c present).table]
      exact (accounted.allows j).table
  · exact Crowd.forall_getElem?_move accounted.sound fun c present _ => (step c present).sound
  · exact Crowd.count_move (·.stats.totalRequests) _ accounted.total fun c present =>
      (step c present).total
  · exact Crowd.count_move (·.stats.latencies.count) _ accounted.latency fun c present =>
      (step c present).latency
  · exact Crowd.count_move_le (·.stats.injectedDelays) _ accounted.delays fun c present =>
      (step c present).delays
  · exact Crowd.count_move (fun e => count e.stats) _ (accounted.failures kinds) fun c present =>
      (step c present).failures kinds

theorem step (accounted : Accounted (setting e events) t) {event : Event} (known : event ∈ events) :
    Accounted (setting e events) (t.step event) := by
  cases event with
  | serve i now =>
    exact accounted.move fun c _ sound => Engine.moves_serve sound (accounted.allows i) now
  | serveWith i backend result =>
    exact accounted.move fun c _ sound => Engine.moves_serveWith sound ⟨backend, known⟩
  | install table =>
    exact { accounted with allows := fun i => ⟨(accounted.allows i).config, .inr known⟩ }
  | disturb backend injector =>
    exact { accounted with
      allows := fun i => ⟨(accounted.allows i).config, (accounted.allows i).table⟩ }

theorem run (accounted : Accounted (setting e events) t) {happened : List Event}
    (known : happened ⊆ events) : Accounted (setting e events) (t.run happened) := by
  induction happened generalizing t with
  | nil => exact accounted
  | cons event happened ih =>
    obtain ⟨first, rest⟩ := List.cons_subset.mp known
    exact ih (accounted.step first) rest

end Accounted

/-! ### No request on its way -/

theorem countP_eq_add {α : Type} {p q r : α → Bool} {l : List α}
    (parts : ∀ a ∈ l, (p a).toNat = (q a).toNat + (r a).toNat) :
    l.countP p = l.countP q + l.countP r := by
  induction l with
  | nil => rfl
  | cons a l ih =>
    have first := parts a List.mem_cons_self
    have rest := ih fun b mem => parts b (List.mem_cons_of_mem a mem)
    simp only [List.countP_cons, rest]
    revert first
    cases p a <;> cases q a <;> cases r a <;> simp <;> omega

end Clients

namespace Client

variable {s : Setting} {c : Client}

theorem hasEnded_of_rests (rests : c.isInProgress = false) : c.hasBegun = c.hasEnded := by
  cases ended : c.hasEnded with
  | true => exact hasBegun_of_hasEnded ended
  | false => simpa [isInProgress, ended] using rests

theorem Sound.ended (sound : c.Sound s) (ended : c.hasEnded) :
    ∃ outcome, c.counted? = some outcome ∧ c.response? = some outcome.response ∧
      outcome.Fits s c.request c.matched := by
  obtain ⟨request, stage, matched, outcome⟩ := c
  cases stage with
  | finished response delay =>
    obtain ⟨outcome, rfl, rfl, fits⟩ := sound
    exact ⟨outcome, rfl, rfl, fits⟩
  | _ => cases ended

/-- A request that has begun and is not on its way has failed or was served. -/
theorem Sound.failed_or_served (sound : c.Sound s) (rests : c.isInProgress = false) :
    c.hasBegun.toNat = c.hasFailed.toNat + c.isServed.toNat := by
  cases begun : c.hasBegun with
  | true =>
    obtain ⟨outcome, counted, -⟩ := sound.ended (hasEnded_of_rests rests ▸ begun)
    rw [hasFailed, isServed, counted]
    cases way : outcome.failing? <;> simp [way]
  | false =>
    obtain ⟨request, stage, matched, outcome⟩ := c
    cases stage with
    | arrived => rfl
    | _ => cases begun

theorem existsUnique_hasFailedBy {outcome : Outcome} (counted : c.counted? = some outcome) :
    (∃! way, c.hasFailedBy way) ↔ c.isServed = false := by
  simp only [hasFailedBy, isServed, counted, Option.any_some, decide_eq_true_eq]
  cases way : outcome.failing? with
  | none => simp
  | some way => simp

end Client

/-! ### Every run -/

/-- Whatever requests go through the stages of an engine that was set up for some routes, and in whatever
order, while other routes are installed and others use the backend: those that failed, those whose time was
taken and those that were delayed are never more than those that were counted on their arrival, and each
way of failing has been counted once for each request that failed in this way. When no request is on its
way, the time of each was taken, and those that did not fail are those that were served. What has ended
was answered as its outcome says: served by the source of the route that it was matched with or by a
function set for it, and failed in that way of which it was counted. -/
theorem Clients.run_statistics (config : Config) (table : RouteTable) (compiler : Compiler)
    (entropy : UInt64) (requests : List Request) (events : List Event) :
    let e := Engine.ofTable config table compiler entropy
    let t := (Clients.start e requests).run events
    let stats := t.shared.stats
    stats.failed ≤ stats.totalRequests ∧
      stats.latencies.count ≤ stats.totalRequests ∧
      stats.injectedDelays ≤ stats.totalRequests ∧
      stats.totalRequests = t.parties.countP (·.hasBegun) ∧
      (∀ way, stats.count way = t.parties.countP (·.hasFailedBy way)) ∧
      ((∀ c ∈ t.parties, c.isInProgress = false) →
        stats.latencies.count = stats.totalRequests ∧
          stats.totalRequests - stats.failed = t.parties.countP (·.isServed) ∧
          ∀ c ∈ t.parties, c.hasBegun → ((∃! way, c.hasFailedBy way) ↔ c.isServed = false)) ∧
      ∀ (i : Nat) (c : Client), t.parties[i]? = some c → c.hasEnded →
        ∃ outcome, c.counted? = some outcome ∧ c.response? = some outcome.response ∧
          outcome.Fits (setting e events i) c.request c.matched := by
  intro e t stats
  have accounted : Accounted (setting e events) t :=
    (accounted_start rfl requests events).run (List.Subset.refl events)
  have failed : stats.failed = t.parties.countP (·.hasFailed) :=
    accounted.failures Stats.counts_failed
  have total : stats.totalRequests = t.parties.countP (·.hasBegun) := accounted.total
  have latency : stats.latencies.count = t.parties.countP (·.hasEnded) := accounted.latency
  refine ⟨?_, ?_, ?_, total, fun way => accounted.failures (Stats.counts_failing way),
    fun rest => ⟨?_, ?_, fun c mem begun => ?_⟩, fun i c present ended => (accounted.sound i c present).ended ended⟩
  · rw [failed, total]
    exact List.countP_mono_left fun c _ => Client.hasBegun_of_hasFailed
  · rw [latency, total]
    exact List.countP_mono_left fun c _ => Client.hasBegun_of_hasEnded
  · rw [total]
    exact Nat.le_trans accounted.delays
      (List.countP_mono_left fun c _ => Client.hasBegun_of_isPastDelay)
  · rw [latency, total]
    exact List.countP_congr fun c mem => by rw [Client.hasEnded_of_rests (rest c mem)]
  · have parts : t.parties.countP (·.hasBegun) =
        t.parties.countP (·.hasFailed) + t.parties.countP (·.isServed) := by
      refine countP_eq_add fun c mem => ?_
      obtain ⟨i, present⟩ := List.mem_iff_getElem?.mp mem
      exact (accounted.sound i c present).failed_or_served (rest c mem)
    rw [failed, total, parts, Nat.add_sub_cancel_left]
  · obtain ⟨i, present⟩ := List.mem_iff_getElem?.mp mem
    have ended : c.hasEnded := Client.hasEnded_of_rests (rest c mem) ▸ begun
    obtain ⟨outcome, counted, -⟩ := (accounted.sound i c present).ended ended
    exact Client.existsUnique_hasFailedBy counted

end MockApi
