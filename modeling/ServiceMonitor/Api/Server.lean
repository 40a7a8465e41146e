import ServiceMonitor.Net.Listen

/-!
What the server is set up with.
-/

namespace ServiceMonitor.Api

structure Server where
  bind : Net.Endpoint
  /-- required of every request, if there is one -/
  token : Option String
  /-- pages from elsewhere may ask -/
  cors : Bool
  deriving DecidableEq, Repr

def Server.standard : Server := ⟨⟨Net.defaultAddress, Net.defaultPort, 0⟩, none, true⟩

end ServiceMonitor.Api
