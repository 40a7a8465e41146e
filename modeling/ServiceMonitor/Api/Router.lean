import ServiceMonitor.Api.Auth
import ServiceMonitor.Api.Server
import ServiceMonitor.Json.Value

/-!
Which request gets which answer.

There are two paths: the health check and the event stream. Around them comes the token, and around that the
permission for pages from elsewhere, so that preflight requests need no token.
-/

namespace ServiceMonitor.Api

open Http (Bytes Request Response)

inductive Route where
  | health
  | stream
  | unknown
  deriving DecidableEq, Repr

def route (path : Bytes) : Route :=
  if path = Utf8.ofString "/api/v1/health" then .health
  else if path = Utf8.ofString "/api/v1/stream" then .stream
  else .unknown

structure Health where
  timestamp : String
  clients : Nat
  deriving DecidableEq, Repr

def Health.json (h : Health) : Json :=
  .obj [("status", .str "ok"), ("timestamp", .str h.timestamp), ("clients", .num (.nat h.clients))]

def Health.response (h : Health) : Response := ⟨200, [("content-type", "application/json")], h.json.render⟩

/-- the answer to a request: a response, or the switch to the event stream -/
inductive Answer where
  | response (r : Response)
  | switch
  deriving DecidableEq, Repr

/-- a header's value contains a word, or is a word, without regard to case -/
def headerContains (r : Request) (name word : String) : Bool :=
  match r.header? name with
  | some v => (Utf8.decode v).isSome && Http.containsText (Utf8.ofString word) (v.map Http.loweredByte)
  | none => false

def headerIs (r : Request) (name word : String) : Bool :=
  match r.header? name with
  | some v => v.map Http.loweredByte = Utf8.ofString word
  | none => false

/-- the stream: a request must ask for the switch in full, and come over a connection that can switch -/
def upgrade (canSwitch : Bool) (r : Request) : Answer :=
  if r.method != "GET" then .response (.plain 405 "Request method must be `GET`")
  else if !headerContains r "connection" "upgrade" then
    .response (.plain 400 "Connection header did not include 'upgrade'")
  else if !headerIs r "upgrade" "websocket" then
    .response (.plain 400 "`Upgrade` header did not include 'websocket'")
  else if !headerIs r "sec-websocket-version" "13" then
    .response (.plain 400 "`Sec-WebSocket-Version` header did not include '13'")
  else if (r.header? "sec-websocket-key").isNone then .response (.plain 400 "`Sec-WebSocket-Key` header missing")
  else if !canSwitch then
    .response (.plain 426 "WebSocket request couldn't be upgraded since no upgrade state was present")
  else .switch

/-- both paths know these methods only -/
def isKnownMethod (method : String) : Bool := method = "GET" || method = "HEAD"

def inner (health : Health) (canSwitch : Bool) (r : Request) : Answer :=
  match route r.target.path with
  | .unknown => .response (.bare 404)
  | .health => .response (if isKnownMethod r.method then health.response else .bare 405)
  | .stream => if isKnownMethod r.method then upgrade canSwitch r else .response (.bare 405)

def guarded (server : Server) (routes : Request → Answer) (r : Request) : Answer :=
  match server.token with
  | none => routes r
  | some token =>
    match authorize token r with
    | .ok () => routes r
    | .error e => .response (.plain e.status e.message)

/-- a request that only asks what is permitted -/
def isPreflight (server : Server) (r : Request) : Bool := server.cors && r.method = "OPTIONS"

/-- the headers that permit pages from elsewhere to ask -/
def permitted (server : Server) (r : Request) (a : Response) : Response :=
  if !server.cors then a
  else
    let a := (a.with "access-control-allow-origin" "*").with "vary"
      "origin, access-control-request-method, access-control-request-headers"
    if isPreflight server r then
      (a.with "access-control-allow-methods" "*").with "access-control-allow-headers" "*"
    else a

/-- a known path names its methods when it is asked for another one -/
def allowed (r : Request) (a : Response) : Response :=
  if route r.target.path != .unknown && !isKnownMethod r.method then a.with "allow" "GET,HEAD" else a

def finished (server : Server) (r : Request) : Answer → Answer
  | .switch => .switch
  | .response a => .response (permitted server r (allowed r (a.sized (r.method != "HEAD"))))

/-- the answer of routes with all that comes around them -/
def served (server : Server) (routes : Request → Answer) (r : Request) : Answer :=
  finished server r (if isPreflight server r then .response (.bare 200) else guarded server routes r)

def answer (server : Server) (health : Health) (canSwitch : Bool) (r : Request) : Answer :=
  served server (inner health canSwitch) r

end ServiceMonitor.Api
