import ServiceMonitor.Agent.EventStream
import ServiceMonitor.Config.Settings
import ServiceMonitor.Http.Client

/-!
A host's agent, asked over the network: for a list of its services, and for a stream of their changes.

Both requests carry the agent's secret. A reply counts only if its status says so; a list counts only as a whole. An agent that
does not know the stream is one that cannot push.
-/

namespace ServiceMonitor.Agent

open Http (Bytes Failure Network Outgoing Reply)

def source : String := "agent"

def pushes : Bool := true

def secretHeader : String := "x-monitoring-secret"

structure Provider where
  /-- the agent's address without slashes at its end -/
  base : String
  token : Option String
  timeout : Duration
  deriving DecidableEq, Repr

/-- a text without the slashes at its end -/
def withoutSlashes (s : String) : String := String.ofList (s.toList.reverse.dropWhile (· = '/')).reverse

namespace Provider

def make (address : String) (token : Option String) (timeout : Duration) : Provider :=
  ⟨withoutSlashes address, token, timeout⟩

def ofHost (h : Config.Host) (timeout : Duration) : Provider := make h.url h.token timeout

/-! ## Requests -/

def servicesPath : String := "/services"

def eventsPath : String := "/services/events"

/-- the request for a path below the agent's address -/
def request (p : Provider) (path : String) : Except Failure Outgoing :=
  Http.prepare "GET" (p.base ++ path) [(secretHeader, Utf8.ofString (p.token.getD ""))] []

/-- an exchange that came to nothing -/
def fault (p : Provider) (f : Failure) : ProviderError :=
  if f.isLate then .timeout p.timeout
  else if f.isDecoding then .invalidResponse f.message
  else .connection f.message

/-! ## Replies -/

/-- the observations in a body; one bad element spoils it -/
def observations? (body : Bytes) : Except Failure (List Observation) :=
  match Service.listOfBytes body with
  | .ok services => .ok (services.map Service.observation)
  | .error _ => .error (.decoding false)

def listed (p : Provider) (r : Reply) : Except ProviderError (List Observation) :=
  if Http.isSuccess r.status then (r.wholeBody.bind observations?).mapError p.fault else .error (.status r.status)

/-- a piece of the body as the splitter takes it -/
def piece : Except Failure Bytes → Piece
  | .ok bytes => .ok bytes
  | .error f => .error f.message

/-- what a reply to the stream request says: the items to come, or why there are none -/
def opened (r : Reply) : Except SubscriptionError (List Item) :=
  if Http.isSuccess r.status then .ok (streamItems (r.body.map piece))
  else if r.status = 404 then .error .unsupported
  else .error (.opening (.status r.status))

/-! ## Whole exchanges -/

def list (p : Provider) (network : Network) : Except ProviderError (List Observation) :=
  match (p.request servicesPath).bind network with
  | .ok r => p.listed r
  | .error f => .error (p.fault f)

def subscribe (p : Provider) (network : Network) : Except SubscriptionError (List Item) :=
  match (p.request eventsPath).bind network with
  | .ok r => opened r
  | .error f => .error (.opening (p.fault f))

end Provider

end ServiceMonitor.Agent
