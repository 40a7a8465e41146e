import ServiceMonitor.Time.Timestamp

/-!
What the monitor reports.

A `Change` says what happened: a service went from one lifecycle state to another, a host became unreachable, or a host
recovered. An `Event` is a change with the instant of its report. Events are values; whoever gets one gets all of it.
-/

namespace ServiceMonitor

/-- what is known of a service -/
inductive Lifecycle where
  | unknown
  | running
  | stopped
  deriving DecidableEq, Repr, Inhabited

namespace Lifecycle

def text : Lifecycle → String
  | .unknown => "unknown"
  | .running => "running"
  | .stopped => "stopped"

def named : List (String × Lifecycle) := [.unknown, .running, .stopped].map fun s => (s.text, s)

end Lifecycle

/-- what subscribers choose events by -/
inductive Kind where
  | serviceStateChanged
  | hostUnreachable
  | hostRecovered
  deriving DecidableEq, Repr

namespace Kind

/-- every kind, in the order they are subscribed to and counted -/
def all : List Kind := [.serviceStateChanged, .hostUnreachable, .hostRecovered]

def text : Kind → String
  | .serviceStateChanged => "service_state_changed"
  | .hostUnreachable => "host_unreachable"
  | .hostRecovered => "host_recovered"

def described : Kind → String
  | .serviceStateChanged => "ServiceStateChanged"
  | .hostUnreachable => "HostUnreachable"
  | .hostRecovered => "HostRecovered"

def named : List (String × Kind) := all.map fun k => (k.text, k)

end Kind

inductive Change where
  | service (host name source : String) (old new : Lifecycle)
  | unreachable (host reason : String)
  | recovered (host : String)
  deriving DecidableEq, Repr

namespace Change

def kind : Change → Kind
  | .service .. => .serviceStateChanged
  | .unreachable .. => .hostUnreachable
  | .recovered _ => .hostRecovered

def host : Change → String
  | .service h .. => h
  | .unreachable h _ => h
  | .recovered h => h

def summary : Change → String
  | .service host name source old new =>
    name ++ " on " ++ host ++ " (" ++ source ++ ") changed from " ++ old.text ++ " to " ++ new.text
  | .unreachable host reason => "host unreachable: " ++ host ++ " (" ++ reason ++ ")"
  | .recovered host => "host recovered: " ++ host

end Change

/-- a change and when it was reported -/
structure Event where
  change : Change
  timestamp : Timestamp
  deriving DecidableEq, Repr

namespace Event

def kind (e : Event) : Kind := e.change.kind

def host (e : Event) : String := e.change.host

def summary (e : Event) : String := e.change.summary

end Event

structure Observation where
  name : String
  state : Lifecycle
  /-- what the backend says about it in its own words -/
  status : String
  deriving DecidableEq, Repr

end ServiceMonitor
