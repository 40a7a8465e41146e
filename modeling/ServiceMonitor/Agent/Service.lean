import ServiceMonitor.Event
import ServiceMonitor.Json.Reader

/-!
Services as an agent reports them, and what they say about the observed state.
-/

namespace ServiceMonitor.Agent

open Json (Error Reader Bytes)

/-- a service in the agent's own words -/
structure Service where
  name : String
  state : String
  status : String
  deriving DecidableEq, Repr

def lowered (s : String) : String := String.ofList (s.toList.map Char.toLower)

def runningWords : List String := ["running", "active", "up"]

def stoppedWords : List String := ["stopped", "exited", "dead", "inactive", "failed", "down"]

/-- the state that an agent's word stands for -/
def lifecycle (word : String) : Lifecycle :=
  if runningWords.contains (lowered word) then .running
  else if stoppedWords.contains (lowered word) then .stopped
  else .unknown

namespace Service

def observation (s : Service) : Observation := ⟨s.name, lifecycle s.state, s.status⟩

def reader : Reader Service :=
  Json.record "AgentService"
    [.of "name" Json.anyString (fun v s => { s with name := v }) .required,
      .of "state" Json.anyString (fun v s => { s with state := v }) .required,
      .of "status" Json.anyString (fun v s => { s with status := v }) (.default fun s => { s with status := "" })]
    ⟨"", "", ""⟩

def ofBytes (bs : Bytes) : Except Error Service := Json.decode reader bs

def listOfBytes (bs : Bytes) : Except Error (List Service) := Json.decode (Json.listOf reader) bs

end Service

end ServiceMonitor.Agent
