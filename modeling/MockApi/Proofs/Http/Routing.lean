import MockApi.Proofs.Engine.Stages
import MockApi.Proofs.Json.Table
import MockApi.Proofs.Traffic.Alone

/-!
# Routing

A route that fits a request is found behind the router as it is found in the table: what the engine makes
of the request reaches the client, with nothing changed but the headers for other origins
(`handle_of_matched`). The router answers by itself at the path of the health check, and to questions of
browsers whether another origin may send a request.
-/

namespace MockApi

namespace Engine

/-- A request that a route fits goes on with it, after two stages. -/
theorem run_of_matched {e : Engine} {request : Request} {m : RouteMatch} (now : Instant)
    (found : e.table.matchRequest request.method request.path = some m) (fuel : Nat) :
    e.run now request (fuel + 2) .arrived =
      (e.recorded Stats.recordRequest).run now request fuel (.delaying m) := by
  have same : (e.recorded Stats.recordRequest).table.matchRequest request.method request.path =
      some m := found
  simp only [run, advance, same]

end Engine

namespace Http

variable {e : Engine} {gate : Gate} {now : Instant} {uptime : Binary64} {r : Request}

/-- The headers that tell a browser what another origin may see of an answer. -/
def sharingHeaders : List String :=
  ["access-control-allow-origin", "access-control-expose-headers", "vary"]

/-- An answer as it was, aside from the headers for other origins. What the answer varies with is only
added to. -/
structure SameBehindSharing (inner outer : Reply) : Prop where
  status : outer.status = inner.status
  content : outer.content = inner.content
  headers : ∀ name, name ∉ sharingHeaders →
    Table.get? outer.headers name = Table.get? inner.headers name
  varies : (Table.get? inner.headers "vary").getD [] <+:
    (Table.get? outer.headers "vary").getD []

theorem SameBehindSharing.refl (reply : Reply) : SameBehindSharing reply reply :=
  ⟨rfl, rfl, fun _ _ => rfl, List.prefix_rfl⟩

theorem sameBehindSharing_shareReply (reply : Reply) :
    SameBehindSharing reply (shareReply reply) where
  status := rfl
  content := rfl
  headers name outside := by
    rw [shareReply, Table.get?_overlay_ofList, Table.get?_ofList_eq_none outside, Option.none_or]
  varies := by
    have added : Table.get? (shareReply reply).headers "vary" =
        some ((Table.get? reply.headers "vary").getD [] ++ [varyValue]) :=
      Table.get?_insert_self _ _ _
    rw [added]
    exact List.prefix_append _ _

/-! ### What the router leaves to the engine -/

/-- The router answers by itself whether another origin may send a request. -/
def Preflight (e : Engine) (r : Request) : Prop :=
  e.config.server.corsEnabled = true ∧ r.method = "OPTIONS"

theorem handle_of_preflight (asks : Preflight e r) (gate : Gate) (now : Instant)
    (uptime : Binary64) : handle e gate now uptime r = (e, preflightReply) := by
  simp only [handle, asks.1, asks.2, if_true]

theorem handle_of_not_preflight (other : ¬Preflight e r) (gate : Gate) (now : Instant)
    (uptime : Binary64) :
    (handle e gate now uptime r).1 = (routed e gate now uptime r).1 ∧
      SameBehindSharing (routed e gate now uptime r).2 (handle e gate now uptime r).2 := by
  unfold handle
  by_cases shared : e.config.server.corsEnabled = true
  · have method : r.method ≠ "OPTIONS" := fun same => other ⟨shared, same⟩
    rw [if_pos shared, if_neg method]
    exact ⟨rfl, sameBehindSharing_shareReply _⟩
  · rw [if_neg shared]
    exact ⟨rfl, .refl _⟩

theorem toRequest_of_read {method : Method} {body : Option Json}
    (named : Method.ofName? r.method = some method) (read : parseBody r.headers r.body = .ok body) :
    toRequest r = .ok { method, path := pathOf r.uri, body } := by
  simp only [toRequest, named, read]
  rfl

/-- A request for which the router does not answer goes to the engine as it was sent. -/
theorem routed_of_elsewhere {request : MockApi.Request} (opened : gate.draining = false)
    (elsewhere : pathOf r.uri ≠ healthPath) (read : toRequest r = .ok request) :
    routed e gate now uptime r =
      ((e.handle now request).1, render (e.handle now request).2.1 (isBranded e)) := by
  rw [routed_of_open opened, if_neg elsewhere]
  simp only [dispatch, read]

/-- While the gate is open, a route that fits a request with a body that can be read goes on with it, and
the client gets the answer of the engine, whatever the method and the path are: aside from the path of
the health check, and from the questions of browsers for other origins, about which no route is asked. -/
theorem handle_of_matched (e : Engine) (gate : Gate) (now : Instant) (uptime : Binary64) (r : Request)
    (method : Method) (body : Option Json) (m : RouteMatch) (opened : gate.draining = false)
    (named : Method.ofName? r.method = some method)
    (read : parseBody r.headers r.body = .ok body)
    (found : e.table.matchRequest method (pathOf r.uri) = some m) :
    let request : MockApi.Request := { method, path := pathOf r.uri, body }
    let answer := e.handle now request
    (Preflight e r → handle e gate now uptime r = (e, preflightReply)) ∧
      (¬Preflight e r → pathOf r.uri ≠ healthPath →
        (handle e gate now uptime r).1 = answer.1 ∧
        SameBehindSharing (render answer.2.1 (isBranded e)) (handle e gate now uptime r).2 ∧
        (e.recorded Stats.recordRequest).run now request (Engine.stageLimit - 2) (.delaying m) =
          (answer.1, .finished answer.2.1 answer.2.2)) := by
  refine ⟨fun asks => handle_of_preflight asks gate now uptime, fun other elsewhere => ?_⟩
  have served : routed e gate now uptime r = _ :=
    routed_of_elsewhere opened elsewhere (toRequest_of_read named read)
  obtain ⟨engine, reply⟩ := handle_of_not_preflight other gate now uptime
  rw [served] at engine reply
  refine ⟨engine, reply, ?_⟩
  rw [← Engine.run_of_matched now found (Engine.stageLimit - 2)]
  exact Engine.run_stageLimit e now _

/-- Routes at the path of the health check and for questions of browsers. -/
def guardedPaths : Definition where
  routes := [{ path := "/health", method := "POST", statusCode := some 201 },
    { path := "/page", method := "OPTIONS", statusCode := some 203 }]

/-- The engine of a session with these routes, which any origin may use. -/
def guarded : Engine := match Session.create {} 0 ⟨0⟩ guardedPaths with
  | .ok s => s.engine
  | .error _ => .ofTable {} {} (.ofConfig {} {} 0) 0

/-- The route at the path of the health check, asked for with another spelling of its path. -/
def healthReport : Request where
  method := "POST"
  uri := "http://localhost:3000//health/?verbose#top"
  headers := [("Content-Type", "application/json")]
  body := [123, 125]

/-- What the engine is handed of it. -/
def healthReportInside : MockApi.Request where
  method := .post
  path := "//health/"
  body := some (.object [])

theorem handle_of_matched_healthReport :
    ∃ m, guarded.table.matchRequest .post "//health/" = some m ∧
      (handle guarded {} ⟨0⟩ .zero healthReport).1 = (guarded.handle ⟨0⟩ healthReportInside).1 ∧
      SameBehindSharing (render (guarded.handle ⟨0⟩ healthReportInside).2.1 true)
        (handle guarded {} ⟨0⟩ .zero healthReport).2 ∧
      (guarded.recorded Stats.recordRequest).run ⟨0⟩ healthReportInside (Engine.stageLimit - 2)
        (.delaying m) = ((guarded.handle ⟨0⟩ healthReportInside).1,
          .finished (guarded.handle ⟨0⟩ healthReportInside).2.1
            (guarded.handle ⟨0⟩ healthReportInside).2.2) := by
  have path : pathOf healthReport.uri = "//health/" := by decide +kernel
  have named : Method.ofName? healthReport.method = some .post := by decide +kernel
  have read : parseBody healthReport.headers healthReport.body = .ok (some (.object [])) := rfl
  have branded : isBranded guarded = true := by decide +kernel
  have found : (guarded.table.matchRequest .post "//health/").isSome = true := by decide +kernel
  obtain ⟨m, found⟩ := Option.isSome_iff_exists.mp found
  have served := (handle_of_matched guarded {} ⟨0⟩ .zero healthReport .post (some (.object [])) m rfl
    named read (path ▸ found)).2 (fun asks => absurd asks.2 (by decide)) (by rw [path]; decide)
  rw [path, branded, ← healthReportInside] at served
  exact ⟨m, found, served⟩

theorem create_guarded :
    ∃ s, Session.create {} 0 ⟨0⟩ guardedPaths = .ok s ∧ s.engine = guarded := by
  cases created : Session.create {} 0 ⟨0⟩ guardedPaths with
  | error e =>
    have accepted : (Session.create {} 0 ⟨0⟩ guardedPaths).isOk = true := by decide +kernel
    rw [created] at accepted
    cases accepted
  | ok s =>
    have same : guarded = s.engine := by
      unfold guarded
      rw [created]
    exact ⟨s, rfl, same.symm⟩

/-- Two routes of a session that fit and yet are not asked: one at the path of the health check, where
only reading is allowed, and one for the questions of browsers. -/
theorem handle_hides_matched :
    ∃ s, Session.create {} 0 ⟨0⟩ guardedPaths = .ok s ∧
      (s.engine.table.matchRequest .post "/health").isSome = true ∧
      ¬SameBehindSharing
        (render (s.engine.handle ⟨0⟩ { method := .post, path := "/health" }).2.1 (isBranded s.engine))
        (handle s.engine {} ⟨0⟩ .zero { method := "POST", uri := "/health" }).2 ∧
      (s.engine.table.matchRequest .options "/page").isSome = true ∧
      ¬SameBehindSharing
        (render (s.engine.handle ⟨0⟩ { method := .options, path := "/page" }).2.1 (isBranded s.engine))
        (handle s.engine {} ⟨0⟩ .zero { method := "OPTIONS", uri := "/page" }).2 := by
  obtain ⟨s, created, engine⟩ := create_guarded
  refine ⟨s, created, ?_⟩
  rw [engine]
  refine ⟨by decide +kernel, fun same => ?_, by decide +kernel, fun same => ?_⟩
  · exact absurd same.status (by decide +kernel)
  · exact absurd same.status (by decide +kernel)

end Http

end MockApi
