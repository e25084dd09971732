import MockApi.Drain
import MockApi.Json.Reader
import MockApi.Session
import MockApi.Text.Lossy

/-!
# HTTP

The router over a session. A request passes the gate, is answered at `/health` or goes to the engine, and
its answer is rendered with the headers of its route, the name of the generator unless that is hidden, and
headers that let any other origin read it.
-/

namespace MockApi

namespace Http

structure Request where
  method : String
  uri : String
  /-- Names in any case, with their values in order. -/
  headers : List (String × String) := []
  body : List UInt8 := []

inductive Content
  | empty
  | json (value : Json)

structure Reply where
  status : Nat
  headers : Table (List String) := []
  content : Content := .empty

/-! ### Requests -/

/-- The path of a target: what stands before a query or a fragment, and behind a host. -/
def pathOf (uri : String) : String :=
  let chars := uri.toList
  let target := if chars.head? = some '/' then chars
    else match Text.splitOnce ':' chars with
      | some (_, '/' :: '/' :: rest) => rest.dropWhile (· ≠ '/')
      | _ => chars
  let path := target.takeWhile fun c => c ≠ '?' && c ≠ '#'
  if path.isEmpty then "/" else String.ofList path

def header? (headers : List (String × String)) (name : String) : Option String :=
  (headers.find? fun entry => Text.lowerAscii entry.1 = name).map (·.2)

def isBlankByte (b : UInt8) : Bool := b == 32 || b == 9 || b == 10 || b == 12 || b == 13

def isPlainValue (value : String) : Bool :=
  value.all fun c => (decide (32 ≤ c.toNat) && decide (c.toNat < 127)) || c == '\t'

def declaresJson (headers : List (String × String)) : Bool :=
  ((header? headers "content-type").filter isPlainValue).any
    (Text.contains "json".toList ·.toList)

def bodyLimit : Nat := 10 * 1024 * 1024

/-- The value of a body: JSON if it is, and otherwise its text, unless it is declared to be JSON. A body
of blanks is none. -/
def parseBody (headers : List (String × String)) (bytes : List UInt8) :
    Except Error (Option Json) :=
  if bodyLimit < bytes.length then .error (.invalidBody "too long")
  else if bytes.all isBlankByte then .ok none
  else match (String.fromUTF8? (ByteArray.mk bytes.toArray)).bind Json.read with
    | some value => .ok (some value)
    | none =>
      if declaresJson headers then .error (.invalidBody "not JSON")
      else .ok (some (.string (Text.lossy bytes)))

def toRequest (r : Request) : Except Error MockApi.Request := do
  let path := pathOf r.uri
  let method ← match Method.ofName? r.method with
    | some method => pure method
    | none => throw (.routeNotFound r.method path)
  return { method, path, body := ← parseBody r.headers r.body }

/-! ### Answers -/

def generatorName : String := "schema-mock"

def version : String := "0.1.0"

def withMeta : Json → Json
  | .object members => .object <| Table.insert members "_meta" <| .ofMembers
      [("generator", .string generatorName), ("version", .string version)]
  | value => value

def isTokenChar (c : Char) : Bool := c.isAlphanum || "!#$%&'*+-.^_`|~".toList.contains c

def isHeaderName (name : String) : Bool :=
  !name.isEmpty && name.all isTokenChar && decide (name.length < 2 ^ 16)

def isHeaderValue (value : String) : Bool :=
  value.all fun c => (decide (32 ≤ c.toNat) && c.toNat != 127) || c == '\t'

def addHeader (headers : Table (List String)) (entry : String × String) : Table (List String) :=
  if isHeaderName entry.1 && isHeaderValue entry.2 then
    Table.insert headers (Text.lowerAscii entry.1) [entry.2]
  else headers

def jsonReply (status : Nat) (value : Json) : Reply :=
  { status, headers := [("content-type", ["application/json"])], content := .json value }

def noContent : Nat := 204

def render (response : Response) (branding : Bool) : Reply :=
  let status := if Error.isStatus response.status then response.status else 500
  let reply : Reply :=
    if status = noContent then { status }
    else jsonReply status (if branding then withMeta response.body else response.body)
  let headers := response.headers.foldl addHeader reply.headers
  { reply with headers :=
      if branding then Table.insert headers "x-powered-by" [generatorName] else headers }

def drainReply : Reply :=
  jsonReply 503 (Error.envelopeOf "ServiceUnavailable"
    "Server is shutting down. Please retry your request." none)

/-! ### Other origins -/

def varyValue : String :=
  "origin, access-control-request-method, access-control-request-headers"

def preflightReply : Reply where
  status := 200
  headers := [("access-control-allow-headers", ["*"]), ("access-control-allow-methods", ["*"]),
    ("access-control-allow-origin", ["*"]), ("vary", [varyValue])]

def shareReply (reply : Reply) : Reply :=
  let vary := (Table.get? reply.headers "vary").getD [] ++ [varyValue]
  let shared := [("access-control-allow-origin", ["*"]), ("access-control-expose-headers", ["*"]),
    ("vary", vary)]
  { reply with headers := Table.overlay reply.headers shared }

/-! ### The router -/

def healthPath : String := "/health"

def healthReply (now : Instant) (uptime : Binary64) : Reply :=
  jsonReply 200 (.ofMembers [("status", .string "ok"), ("timestamp", .string now.milliText),
    ("uptime", .ofBinary64 uptime)])

/-- An answer at the path of the health check: only reading is allowed there, and an answer to a request
for headers alone has no content. -/
def healthRoute (method : String) (reply : Reply) : Reply :=
  if method = "GET" then reply
  else if method = "HEAD" then { reply with content := .empty }
  else { reply with headers := Table.insert reply.headers "allow" ["GET,HEAD"] }

/-- The answer at the path of the health check to a request that was let in. -/
def healthAnswer (now : Instant) (uptime : Binary64) (r : Request) : Reply :=
  if r.method = "GET" ∨ r.method = "HEAD" then healthReply now uptime else { status := 405 }

/-- Whether answers name the generator. -/
def isBranded (e : Engine) : Bool := !e.config.server.hideBranding

def dispatch (e : Engine) (now : Instant) (r : Request) : Engine × Reply :=
  let branding := isBranded e
  match toRequest r with
  | .error error => (e, render (.ofError error) branding)
  | .ok request =>
    let (e, response, _) := e.handle now request
    (e, render response branding)

def routed (e : Engine) (gate : Gate) (now : Instant) (uptime : Binary64) (r : Request) :
    Engine × Reply :=
  if pathOf r.uri = healthPath then
    let reply := if gate.draining then drainReply else healthAnswer now uptime r
    (e, healthRoute r.method reply)
  else if gate.draining then (e, drainReply)
  else dispatch e now r

def handle (e : Engine) (gate : Gate) (now : Instant) (uptime : Binary64) (r : Request) :
    Engine × Reply :=
  if e.config.server.corsEnabled then
    if r.method = "OPTIONS" then (e, preflightReply)
    else
      let (e, reply) := routed e gate now uptime r
      (e, shareReply reply)
  else routed e gate now uptime r

end Http

end MockApi
