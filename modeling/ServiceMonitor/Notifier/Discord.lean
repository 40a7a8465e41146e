import ServiceMonitor.Event.Json

/-!
The chat message for an event: one embed, and in front of it a line that addresses a user, if one is configured.
-/

namespace ServiceMonitor.Discord

/-- a named value of an embed; inline ones stand side by side -/
structure Field where
  name : String
  value : String
  inlined : Bool
  deriving DecidableEq, Repr

structure Embed where
  title : String
  description : String
  color : Nat
  fields : List Field
  footer : String
  timestamp : Timestamp

structure Message where
  content : Option String
  embed : Embed

/-! ## Building -/

def red : Nat := 15158332
def orange : Nat := 15105570
def green : Nat := 3066993
def blue : Nat := 5793266

/-- title and color for the state a service went to -/
def heading : Lifecycle → String × Nat
  | .running => ("✅ Service Started", green)
  | .stopped => ("🔴 Service Stopped", red)
  | .unknown => ("❔ Service State Unknown", blue)

def embed (e : Event) : Embed :=
  let footer := "Host: " ++ e.host
  match e.change with
  | .service host name source old new =>
    ⟨(heading new).1, "Service **" ++ name ++ "** on **" ++ host ++ "** is now " ++ new.text, (heading new).2,
      [⟨"Previous", old.text, true⟩, ⟨"Current", new.text, true⟩, ⟨"Source", source, true⟩], footer, e.timestamp⟩
  | .unreachable host reason =>
    ⟨"⚠️ Host Unreachable", "Host **" ++ host ++ "** is not responding", orange, [⟨"Reason", reason, false⟩], footer,
      e.timestamp⟩
  | .recovered host =>
    ⟨"✅ Host Recovered", "Host **" ++ host ++ "** is reachable again", green, [], footer, e.timestamp⟩

def message (user : Option String) (e : Event) : Message :=
  ⟨user.map fun u => e.summary ++ " <@" ++ u ++ ">", embed e⟩

/-! ## Writing -/

def Field.json (f : Field) : Json :=
  .obj [("name", .str f.name), ("value", .str f.value), ("inline", .bool f.inlined)]

/-- an embed without fields has no member for them -/
def Embed.json (e : Embed) : Json :=
  .obj ([("title", .str e.title), ("description", .str e.description), ("color", .num (.nat e.color))]
    ++ (if e.fields.isEmpty then [] else [("fields", .arr (e.fields.map Field.json))])
    ++ [("footer", .obj [("text", .str e.footer)]), ("timestamp", .str e.timestamp.textWithOffset)])

def Message.json (m : Message) : Json :=
  .obj ((match m.content with | some c => [("content", .str c)] | none => []) ++ [("embeds", .arr [m.embed.json])])

end ServiceMonitor.Discord
