import ServiceMonitor.Event.Json

/-!
Messages to the clients of the hub.

A message has a type, an instant and a payload; an event becomes one whose payload holds the event's own members, a ping
one without payload. The members of the payload are sorted by name.
-/

namespace ServiceMonitor

open Json (Error Reader Bytes)

inductive WireType where
  | serviceUpdate
  | hostUnreachable
  | hostRecovered
  | ping
  deriving DecidableEq, Repr

namespace WireType

def text : WireType → String
  | .serviceUpdate => "service_update"
  | .hostUnreachable => "host_unreachable"
  | .hostRecovered => "host_recovered"
  | .ping => "ping"

def named : List (String × WireType) :=
  [.serviceUpdate, .hostUnreachable, .hostRecovered, .ping].map fun t => (t.text, t)

def ofKind : Kind → WireType
  | .serviceStateChanged => .serviceUpdate
  | .hostUnreachable => .hostUnreachable
  | .hostRecovered => .hostRecovered

end WireType

structure WireMessage where
  type : WireType
  timestamp : Timestamp
  payload : Json

namespace WireMessage

def ofEvent (e : Event) : WireMessage :=
  ⟨.ofKind e.kind, e.timestamp, Json.canonical (.obj e.members)⟩

def ping (now : Timestamp) : WireMessage := ⟨.ping, now, .null⟩

def json (m : WireMessage) : Json :=
  .obj [("type", .str m.type.text), ("timestamp", m.timestamp.json), ("payload", m.payload)]

def text (m : WireMessage) : String := m.json.render

/-! ## Reading -/

def timestampReader : Reader Timestamp :=
  Json.parsed "an RFC 3339 formatted date and time string" fun s => (Timestamp.parse s).mapError (·.message)

/-- any value, members sorted -/
def payloadReader : Reader Json := fun depth bs => do
  let (v, bs) ← Json.value depth bs
  .ok (Json.canonical v, bs)

def reader : Reader WireMessage :=
  Json.record "WireMessage"
    [.of "type" (Json.oneOf WireType.named) (fun t m => { m with type := t }) .required,
      .of "timestamp" timestampReader (fun t m => { m with timestamp := t }) .required,
      .of "payload" payloadReader (fun v m => { m with payload := v }) .required]
    ⟨.ping, default, .null⟩

def ofBytes (bs : Bytes) : Except Error WireMessage := Json.decode reader bs

end WireMessage

end ServiceMonitor
