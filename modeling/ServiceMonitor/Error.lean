import ServiceMonitor.Text.Quoted
import ServiceMonitor.Json.Error
import ServiceMonitor.Time.Duration

/-!
What can go wrong between the monitor and the outside, one type for each partner.

`message` is the text for people, `described` names the cause with its contents.
-/

namespace ServiceMonitor

/-- a constructor with one quoted text -/
def describedText (name s : String) : String := name ++ "(" ++ Text.quoted s ++ ")"

/-! ## Providers -/

/-- why a provider gave no observations -/
inductive ProviderError where
  | connection (reason : String)
  | timeout (after : Duration)
  | status (code : Nat)
  | invalidResponse (reason : String)
  /-- the backend will never answer -/
  | unavailable (reason : String)
  deriving DecidableEq, Repr

namespace ProviderError

def message : ProviderError → String
  | .connection reason => "connection failed: " ++ reason
  | .timeout after => "request timed out after " ++ after.text
  | .status code => "unexpected status code: " ++ toString code
  | .invalidResponse reason => "invalid response: " ++ reason
  | .unavailable reason => "backend unavailable: " ++ reason

def name : ProviderError → String
  | .connection _ => "Connection"
  | .timeout _ => "Timeout"
  | .status _ => "Status"
  | .invalidResponse _ => "InvalidResponse"
  | .unavailable _ => "Unavailable"

def described (e : ProviderError) : String :=
  match e with
  | .connection reason | .invalidResponse reason | .unavailable reason => describedText e.name reason
  | .timeout after => e.name ++ "(" ++ after.text ++ ")"
  | .status code => e.name ++ "(" ++ toString code ++ ")"

/-- trying again is pointless -/
def isPermanent : ProviderError → Bool
  | .unavailable _ => true
  | _ => false

end ProviderError

inductive SubscriptionError where
  | unsupported
  | opening (cause : ProviderError)
  | closed (reason : String)
  deriving DecidableEq, Repr

namespace SubscriptionError

def message : SubscriptionError → String
  | .unsupported => "native subscriptions are not supported by this provider"
  | .opening cause => "failed to open subscription: " ++ cause.message
  | .closed reason => "subscription closed: " ++ reason

def name : SubscriptionError → String
  | .unsupported => "Unsupported"
  | .opening _ => "Open"
  | .closed _ => "Closed"

def described (e : SubscriptionError) : String :=
  match e with
  | .unsupported => e.name
  | .opening cause => e.name ++ "(" ++ cause.described ++ ")"
  | .closed reason => describedText e.name reason

/-- the provider's error behind it -/
def cause? : SubscriptionError → Option ProviderError
  | .opening cause => some cause
  | _ => none

def isPermanent (e : SubscriptionError) : Bool := (e.cause?.map (·.isPermanent)).getD false

end SubscriptionError

/-! ## Notification backends -/

inductive NotifierError where
  | request (reason : String)
  | status (code : Nat)
  | closed
  deriving DecidableEq, Repr

namespace NotifierError

def message : NotifierError → String
  | .request reason => "request failed: " ++ reason
  | .status code => "backend responded with status " ++ toString code
  | .closed => "notifier closed"

def name : NotifierError → String
  | .request _ => "Request"
  | .status _ => "Status"
  | .closed => "Closed"

def described (e : NotifierError) : String :=
  match e with
  | .request reason => describedText e.name reason
  | .status code => e.name ++ "(" ++ toString code ++ ")"
  | .closed => e.name

end NotifierError

/-! ## Clients of the hub -/

inductive TransportError where
  | writeTimeout
  | closed
  | webSocket (reason : String)
  | encode (cause : Json.Error)
  deriving DecidableEq, Repr

namespace TransportError

def message : TransportError → String
  | .writeTimeout => "write timed out"
  | .closed => "connection closed"
  | .webSocket reason => "websocket error: " ++ reason
  | .encode cause => "failed to encode message: " ++ cause.message

end TransportError

/-! ## The monitor and its configuration -/

inductive MonitorError where
  | alreadyStarted
  | stopped
  deriving DecidableEq, Repr

namespace MonitorError

def message : MonitorError → String
  | .alreadyStarted => "monitor is already running"
  | .stopped => "monitor was stopped, construct a new one"

def described : MonitorError → String
  | .alreadyStarted => "AlreadyStarted"
  | .stopped => "Stopped"

end MonitorError

inductive ConfigError where
  | emptyHostName
  | duplicateHost (host : String)
  | invalidUrl (host reason : String)
  | zeroPollInterval
  deriving DecidableEq, Repr

namespace ConfigError

def message : ConfigError → String
  | .emptyHostName => "host name must not be empty"
  | .duplicateHost host => "host `" ++ host ++ "` is configured more than once"
  | .invalidUrl host reason => "host `" ++ host ++ "` has an invalid url: " ++ reason
  | .zeroPollInterval => "poll interval must be greater than zero"

def name : ConfigError → String
  | .emptyHostName => "EmptyHostName"
  | .duplicateHost _ => "DuplicateHost"
  | .invalidUrl .. => "InvalidUrl"
  | .zeroPollInterval => "ZeroPollInterval"

def described (e : ConfigError) : String :=
  match e with
  | .duplicateHost host => describedText e.name host
  | .invalidUrl host reason =>
    e.name ++ " \x7b host: " ++ Text.quoted host ++ ", reason: " ++ Text.quoted reason ++ " \x7d"
  | e => e.name

end ConfigError

end ServiceMonitor
