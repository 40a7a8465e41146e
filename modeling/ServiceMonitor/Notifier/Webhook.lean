import ServiceMonitor.Event.Json

/-!
The document that is posted to a webhook for an event: its summary, host, instant and the event itself, members sorted by
name at every level.
-/

namespace ServiceMonitor.Webhook

def document (e : Event) : Json :=
  Json.canonical (.obj [("message", .str e.summary), ("host", .str e.host), ("event", e.json),
    ("timestamp", .str e.timestamp.textWithOffset)])

end ServiceMonitor.Webhook
