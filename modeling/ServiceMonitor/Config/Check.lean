import ServiceMonitor.Config.Settings
import ServiceMonitor.Text.Blank
import ServiceMonitor.Url.Reading

/-!
Which configurations the monitor can run with.

The poll interval is not zero; every host has a name that is not blank and that no host before it has, and an address. The
first of these rules that fails, host by host, names the fault.
-/

namespace ServiceMonitor.Config

def isBlankName (s : String) : Bool := (Text.trim s.toList).isEmpty

/-- the fault of one host, whose name must not be among those seen -/
def checkHost (seen : List String) (h : Host) : Except ConfigError Unit :=
  if isBlankName h.name then .error .emptyHostName
  else if seen.contains h.name then .error (.duplicateHost h.name)
  else
    match Url.ofText h.url with
    | .ok _ => .ok ()
    | .error e => .error (.invalidUrl h.name e.message)

def checkHosts : List String → List Host → Except ConfigError Unit
  | _, [] => .ok ()
  | seen, h :: hs =>
    match checkHost seen h with
    | .ok _ => checkHosts (h.name :: seen) hs
    | .error e => .error e

def Settings.check (s : Settings) : Except ConfigError Unit :=
  if s.monitor.pollInterval = 0 then .error .zeroPollInterval else checkHosts [] s.hosts

end ServiceMonitor.Config
