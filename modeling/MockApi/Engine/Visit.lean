import MockApi.Engine.Client

/-!
# Visits

Requests that are handled one after the other. The clock is read at two places: formats of dates are made
with one reading, and what the server sets in a new or replaced resource with another one.
-/

namespace MockApi

structure Visit where
  request : Request
  /-- What dates in generated values are made with. -/
  dates : Instant
  /-- What a new or replaced resource is stamped with. -/
  stamp : Instant

namespace Visit

/-- The reading of the clock that a stage looks at. -/
def reading (v : Visit) : Stage → Instant
  | .answering m _ => match m.route.source with
    | .computed .replace _ => v.stamp
    | _ => v.dates
  | .making .. => v.stamp
  | _ => v.dates

/-- Those at the chosen places of a list. -/
def selected {α : Type} (chosen : Nat → Bool) : List α → List α
  | [] => []
  | a :: rest =>
    let rest := selected (fun i => chosen (i + 1)) rest
    if chosen 0 then a :: rest else rest

end Visit

namespace Engine

/-- A client is taken so many stages further. -/
def attend (v : Visit) (e : Engine) : Nat → Client → Engine × Client
  | 0, c => (e, c)
  | fuel + 1, c =>
    let next := e.serve (v.reading c.stage) c
    attend v next.1 fuel next.2

/-- A request from its arrival to its end. -/
def receive (e : Engine) (v : Visit) : Engine × Client :=
  e.attend v stageLimit { request := v.request }

/-- What becomes of each request, and what the store counts after it. -/
def history (e : Engine) : List Visit → List (Client × Store)
  | [] => []
  | v :: visits =>
    let next := e.receive v
    (next.2, next.1.backend.store) :: history next.1 visits

end Engine

end MockApi
