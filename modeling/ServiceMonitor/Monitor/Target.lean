import ServiceMonitor.Backoff
import ServiceMonitor.Error
import ServiceMonitor.Event

/-!
What the monitor watches, and how.

A target is a host seen through a provider. A provider is known by its answers: the reply to its n-th list call and to its n-th
subscription attempt, each after some time. A stream is the list of what it yields, each item some time after it is asked
for; behind the last one nothing comes any more.

Times are units of a clock, and a timer goes off at the first unit at which its time is over. The runtime's clock goes by
milliseconds. The ticks of an interval are reckoned in nanoseconds all the same, so what is lost in waiting for a whole
unit is not added up.
-/

namespace ServiceMonitor.Monitor

/-- how a target is observed: pushed to by its provider where that is possible, or polled -/
inductive Strategy where
  | push
  | poll
  deriving DecidableEq, Repr

def Strategy.described : Strategy → String
  | .push => "Push"
  | .poll => "Poll"

/-- an answer and how long it takes -/
structure Reply (α : Type) where
  delay : Nat
  answer : α

/-- what a stream yields: a reading, a fault that ends it, or its end -/
inductive Item where
  | observation (o : Observation)
  | fault (e : SubscriptionError)
  | closed
  deriving DecidableEq, Repr

abbrev Stream := List (Nat × Item)

abbrev ListAnswer := Except ProviderError (List Observation)

abbrev OpenAnswer := Except SubscriptionError Stream

/-- a provider by its answers -/
structure Provider where
  source : String
  /-- it offers subscriptions -/
  pushes : Bool
  list : Nat → Reply ListAnswer
  subscribe : Nat → Reply OpenAnswer

structure Target where
  host : String
  provider : Provider
  strategy : Strategy

def describedTarget (host source : String) (strategy : Strategy) : String :=
  "MonitorTarget \x7b host: " ++ Text.quoted host ++ ", source: " ++ Text.quoted source ++ ", strategy: "
    ++ strategy.described ++ " \x7d"

def Target.described (t : Target) : String := describedTarget t.host t.provider.source t.strategy

/-- what tasks wait by -/
class Clock where
  /-- nanoseconds in a unit -/
  unit : Nat
  positive : 0 < unit

/-- the runtime's timers go by milliseconds -/
instance : Clock := ⟨1000000, by decide⟩

/-- the first unit at which so many nanoseconds are over -/
def Clock.up (c : Clock) (nanos : Nat) : Nat := (nanos + c.unit - 1) / c.unit

/-- how the monitor goes about it, by the runtime's clock if no other is given -/
structure Policy where
  /-- between two polls of a target -/
  pollInterval : Duration
  /-- the first known state of a service is no change -/
  skipFirst : Bool
  /-- for a provider call or a subscription attempt -/
  timeout : Duration
  backoff : Backoff
  [clock : Clock]

def Policy.standard : Policy := ⟨.ofSecs 60, true, .ofSecs 5, .standard⟩

def Policy.check (p : Policy) : Except ConfigError Unit :=
  if p.pollInterval.isZero then .error .zeroPollInterval else .ok ()

/-- the timeout on the clock -/
def Policy.limit (p : Policy) : Nat := p.clock.up p.timeout.nanos

/-- when a call made at `now` is over, and with what answer; one that needs exactly the limit is in time -/
def Policy.limited {ε α : Type} (p : Policy) (late : ε) (now : Nat) (r : Reply (Except ε α)) : Nat × Except ε α :=
  if r.delay ≤ p.limit then (now + r.delay, r.answer) else (now + p.limit, .error late)

/-! ## Intervals -/

/-- a tick of an interval -/
structure Tick where
  /-- when it is due, in nanoseconds -/
  due : Nat
  /-- when its timer goes off -/
  fires : Nat

/-- a tick taken later than this after it was due moves those behind it; in nanoseconds -/
def tolerance : Nat := 5000000

def Policy.firstTick (p : Policy) (now : Nat) : Tick := ⟨now * p.clock.unit, now⟩

@[simp] theorem Policy.firstTick_fires (p : Policy) (now : Nat) : (p.firstTick now).fires = now := rfl

def Policy.nextTick (p : Policy) (tick : Tick) (now : Nat) : Tick :=
  let taken := now * p.clock.unit
  let due := (if taken ≤ tick.due + tolerance then tick.due else taken) + p.pollInterval.nanos
  ⟨due, p.clock.up due⟩

end ServiceMonitor.Monitor
