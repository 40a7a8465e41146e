import ServiceMonitor.Config.Settings
import ServiceMonitor.Http.Client
import ServiceMonitor.Notifier.Discord
import ServiceMonitor.Notifier.Webhook

/-!
Telling a configured backend about an event: one request with a JSON document, which any successful status answers.
-/

namespace ServiceMonitor.Notifier

open Http (Failure Network Outgoing)

def address : Config.Backend → String
  | .discord url _ => url
  | .webhook url => url

def document (b : Config.Backend) (e : Event) : Json :=
  match b with
  | .discord _ user => (Discord.message user e).json
  | .webhook _ => Webhook.document e

/-- the request that tells a backend -/
def post (b : Config.Backend) (e : Event) : Except Failure Outgoing :=
  Http.prepare "POST" (address b) [("content-type", Utf8.ofString "application/json")]
    (Utf8.ofString (document b e).render)

def tell (b : Config.Backend) (network : Network) (e : Event) : Except NotifierError Unit :=
  match (post b e).bind network with
  | .ok r => if Http.isSuccess r.status then .ok () else .error (.status r.status)
  | .error f => .error (.request f.message)

end ServiceMonitor.Notifier
