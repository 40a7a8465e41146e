import ServiceMonitor.Time.Duration

/-!
How long to wait before a lost subscription is opened again.

The delay before retry `n` is `first · factor^n` seconds in double precision, and `max` where that is no number, negative
or more than `max`. After `maxRetries` failures in a row there is no retry.
-/

namespace ServiceMonitor

structure Backoff where
  first : Duration
  max : Duration
  factor : Double
  maxRetries : Nat
  deriving DecidableEq

namespace Backoff

/-- exponents beyond this one count as this one -/
def largestExponent : Nat := Nat.pow 2 31 - 1

/-- the delay in seconds before it is limited -/
def seconds (p : Backoff) (attempt : Nat) : Double :=
  .mul p.first.toDouble (p.factor.pow (min attempt largestExponent))

/-- the delay before retry `attempt`; none where the seconds are not above `max` as doubles and yet no span of time -/
def next? (p : Backoff) (attempt : Nat) : Option Duration :=
  let secs := p.seconds attempt
  if !secs.isFinite || secs.lt .zero || p.max.toDouble.lt secs then some p.max else Duration.ofDouble? secs

def exhausted (p : Backoff) (failures : Nat) : Bool := p.maxRetries ≤ failures

def standard : Backoff := ⟨.ofSecs 1, .ofSecs 60, .ofNat 2, 5⟩

end Backoff

end ServiceMonitor
