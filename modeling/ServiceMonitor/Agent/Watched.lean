import ServiceMonitor.Agent.Provider
import ServiceMonitor.Monitor.Target

/-!
An agent as the monitor sees it, and the targets of a configuration.

The n-th call goes out over the n-th state of the network and takes the time that this takes; what a stream holds arrives at
once, and then it is closed.
-/

namespace ServiceMonitor.Agent

def monitorItem : Item → Monitor.Item
  | .ok o => .observation o
  | .error e => .fault e

/-- a stream of these items, each at once -/
def monitorStream (items : List Item) : Monitor.Stream :=
  items.map (fun i => (0, monitorItem i)) ++ [(0, .closed)]

/-- the states of the network at successive calls, and how long each call takes -/
abbrev Conditions := Nat → Nat × Http.Network

/-- the agent by its answers under given conditions -/
def Provider.watched (p : Provider) (conditions : Conditions) : Monitor.Provider where
  source := source
  pushes := pushes
  list n := ⟨(conditions n).1, p.list (conditions n).2⟩
  subscribe n := ⟨(conditions n).1, (p.subscribe (conditions n).2).map monitorStream⟩

def target (timeout : Duration) (conditions : String → Conditions) (h : Config.Host) : Monitor.Target :=
  ⟨h.name, (Provider.ofHost h timeout).watched (conditions h.name), h.mode⟩

def targets (conditions : String → Conditions) (s : Config.Settings) : List Monitor.Target :=
  s.hosts.map (target (.ofSecs s.monitor.timeout) conditions)

end ServiceMonitor.Agent
