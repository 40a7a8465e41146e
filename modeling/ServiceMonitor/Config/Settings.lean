import ServiceMonitor.Bus.Registry
import ServiceMonitor.Json.Reader
import ServiceMonitor.Monitor.Target
import ServiceMonitor.Net.Listen

/-!
The configuration file: what it holds, what stands for what is left out, and how it is read.
-/

namespace ServiceMonitor.Config

open Json (Reader Field)
open Bus (Dispatch)
open Monitor (Strategy Policy)

/-- settings of the monitor; times in seconds -/
structure MonitorSettings where
  pollInterval : Nat
  skipFirst : Bool
  timeout : Nat
  dispatch : Dispatch
  deriving DecidableEq, Repr

structure Host where
  name : String
  url : String
  token : Option String
  mode : Strategy
  deriving DecidableEq, Repr

inductive Backend where
  | discord (url : String) (user : Option String)
  | webhook (url : String)
  deriving DecidableEq, Repr

structure ApiSettings where
  bind : Option Net.Endpoint
  token : Option String
  cors : Bool
  deriving DecidableEq, Repr

structure Settings where
  monitor : MonitorSettings
  hosts : List Host
  backends : List Backend
  api : ApiSettings
  deriving DecidableEq, Repr

/-! ## What is left out -/

def MonitorSettings.standard : MonitorSettings := ⟨60, true, 5, .async⟩

def ApiSettings.standard : ApiSettings := ⟨none, none, true⟩

def Settings.standard : Settings := ⟨.standard, [], [], .standard⟩

/-- the policy that the monitor runs with -/
def MonitorSettings.policy (s : MonitorSettings) : Policy :=
  { Policy.standard with
    pollInterval := .ofSecs s.pollInterval
    skipFirst := s.skipFirst
    timeout := .ofSecs s.timeout }

def Backend.name : Backend → String
  | .discord .. => "discord"
  | .webhook _ => "webhook"

/-! ## Reading -/

def dispatchReader : Reader Dispatch := Json.oneOf [("sync", .sync), ("async", .async)]

def strategyReader : Reader Strategy := Json.oneOf [("push", .push), ("poll", .poll)]

def textOrNull : Reader (Option String) := Json.optional Json.anyString

def MonitorSettings.reader : Reader MonitorSettings :=
  let d := MonitorSettings.standard
  Json.record "MonitorSettings"
    [.of "poll_interval" Json.word (fun v s => { s with pollInterval := v }) (.default fun s =>
        { s with pollInterval := d.pollInterval }),
      .of "skip_first_event" Json.boolean (fun v s => { s with skipFirst := v }) (.default fun s =>
        { s with skipFirst := d.skipFirst }),
      .of "timeout" Json.word (fun v s => { s with timeout := v }) (.default fun s => { s with timeout := d.timeout }),
      .of "dispatch" dispatchReader (fun v s => { s with dispatch := v }) (.default fun s =>
        { s with dispatch := d.dispatch })]
    d

def Host.reader : Reader Host :=
  Json.record "HostConfig"
    [.of "name" Json.anyString (fun v s => { s with name := v }) .required,
      .of "url" Json.anyString (fun v s => { s with url := v }) .required,
      .of "token" textOrNull (fun v s => { s with token := v }) .optional,
      .of "mode" strategyReader (fun v s => { s with mode := v }) (.default fun s => { s with mode := .poll })]
    ⟨"", "", none, .poll⟩

def discordReader : Reader Backend :=
  Json.record "DiscordConfig"
    [.of "url" Json.anyString (fun v s => match s with
        | .discord _ user => .discord v user
        | s => s) .required,
      .of "user_id" textOrNull (fun v s => match s with
        | .discord url _ => .discord url v
        | s => s) .optional]
    (.discord "" none)

def webhookReader : Reader Backend :=
  Json.record "WebhookConfig" [.of "url" Json.anyString (fun v _ => .webhook v) .required] (.webhook "")

/-- a backend by its name; the name alone does not do -/
def Backend.reader : Reader Backend :=
  Json.variant [("discord", discordReader), ("webhook", webhookReader)] fun _ =>
    .error (.invalidType .unitVariant "newtype variant")

def endpointReader : Reader Net.Endpoint :=
  Json.parsed "socket address" fun s =>
    match Net.Endpoint.ofText? s with
    | some e => .ok e
    | none => .error "invalid socket address syntax"

def ApiSettings.reader : Reader ApiSettings :=
  Json.record "ApiSettings"
    [.of "bind" (Json.optional endpointReader) (fun v s => { s with bind := v }) .optional,
      .of "token" textOrNull (fun v s => { s with token := v }) .optional,
      .of "enable_cors" Json.boolean (fun v s => { s with cors := v }) (.default fun s => { s with cors := true })]
    ApiSettings.standard

def Settings.reader : Reader Settings :=
  let d := Settings.standard
  Json.record "Config"
    [.of "monitor" MonitorSettings.reader (fun v s => { s with monitor := v }) (.default fun s =>
        { s with monitor := d.monitor }),
      .of "hosts" (Json.listOf Host.reader) (fun v s => { s with hosts := v }) (.default fun s =>
        { s with hosts := d.hosts }),
      .of "notifiers" (Json.listOf Backend.reader) (fun v s => { s with backends := v }) (.default fun s =>
        { s with backends := d.backends }),
      .of "api" ApiSettings.reader (fun v s => { s with api := v }) (.default fun s => { s with api := d.api })]
    d

end ServiceMonitor.Config
