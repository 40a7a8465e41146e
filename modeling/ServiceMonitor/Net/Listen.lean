import ServiceMonitor.Net.Address

/-!
Where the server listens: the configured address, else what the environment says, else port 8080 of this machine alone.
-/

namespace ServiceMonitor.Net

def addressVariable : String := "SERVICEWATCH_ADDR"
def portVariable : String := "SERVICEWATCH_PORT"

def defaultPort : Nat := 8080

def defaultAddress : Ip := .v4 [127, 0, 0, 1]

/-- a port as an environment variable gives it: a plus sign may stand in front -/
def portOfText? (s : String) : Option Nat :=
  let digits := match s.toList with
    | '+' :: r => r
    | cs => cs
  match number? 10 65536 none true digits with
  | some (port, []) => some port
  | _ => none

/-- the port to listen on; a value that is no port counts as none -/
def listenPort (value? : Option String) : Nat := (value?.bind portOfText?).getD defaultPort

def listenAddress (value? : Option String) : Ip := (value?.bind Ip.ofText?).getD defaultAddress

def listenOn (configured : Option Endpoint) (address? port? : Option String) : Endpoint :=
  configured.getD ⟨listenAddress address?, listenPort port?, 0⟩

end ServiceMonitor.Net
