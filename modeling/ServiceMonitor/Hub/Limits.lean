import ServiceMonitor.Time.Duration

/-!
The limits of the hub.
-/

namespace ServiceMonitor.Hub

structure Limits where
  /-- messages that wait for one client -/
  queueCapacity : Nat
  /-- silence after which a ping is written -/
  pingInterval : Duration
  /-- time for one write -/
  writeTimeout : Duration
  /-- events that wait for being broadcast -/
  dispatchCapacity : Nat
  deriving DecidableEq, Repr

def Limits.standard : Limits := ⟨64, .ofSecs 30, .ofSecs 10, 256⟩

end ServiceMonitor.Hub
