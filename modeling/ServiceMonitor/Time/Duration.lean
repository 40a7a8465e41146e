import ServiceMonitor.Number.Double

/-!
Spans of time: whole nanoseconds, fewer than 2^64 seconds of them.

`text` shows a span in the largest unit of s, ms, µs and ns whose integer part is not zero, with the fraction digits
that are needed. `toDouble` and `ofDouble?` convert to and from seconds as doubles.
-/

namespace ServiceMonitor

def nanosPerSecond : Nat := 1000000000

/-- the first count of nanoseconds that is too long -/
def Duration.bound : Nat := Nat.pow 2 64 * nanosPerSecond

structure Duration where
  nanos : Nat
  fits : nanos < Duration.bound
  deriving DecidableEq

namespace Duration

def longest : Duration := ⟨bound - 1, by decide⟩

def ofNanos? (n : Nat) : Option Duration := if h : n < bound then some ⟨n, h⟩ else none

/-- a span of so many nanoseconds, at most the longest -/
def ofNanos (n : Nat) : Duration := (ofNanos? n).getD longest

def ofSecs (n : Nat) : Duration := ofNanos (n * nanosPerSecond)

def ofMillis (n : Nat) : Duration := ofNanos (n * 1000000)

def zero : Duration := ofNanos 0

def secs (d : Duration) : Nat := d.nanos / nanosPerSecond

def subsec (d : Duration) : Nat := d.nanos % nanosPerSecond

def isZero (d : Duration) : Bool := d.nanos = 0

/-- the first whole millisecond at which the span is over -/
def millisUp (d : Duration) : Nat := (d.nanos + 999999) / 1000000

instance : Repr Duration := ⟨fun d n => Repr.addAppParen ("Duration.ofNanos " ++ repr d.nanos) n⟩

instance : Inhabited Duration := ⟨zero⟩

/-! ## Text -/

def padded (width n : Nat) : String :=
  let digits := Nat.toDigits 10 n
  String.ofList (List.replicate (width - digits.length) '0' ++ digits)

/-- a fraction of `width` digits without its trailing zeros, and the point if anything is left -/
def fraction (width n : Nat) : String :=
  let digits := ((padded width n).toList.reverse.dropWhile (· = '0')).reverse
  if digits.isEmpty then "" else String.ofList ('.' :: digits)

/-- the span in its largest fitting unit -/
def text (d : Duration) : String :=
  if 0 < d.secs then toString d.secs ++ fraction 9 d.subsec ++ "s"
  else if 1000000 ≤ d.nanos then toString (d.nanos / 1000000) ++ fraction 6 (d.nanos % 1000000) ++ "ms"
  else if 1000 ≤ d.nanos then toString (d.nanos / 1000) ++ fraction 3 (d.nanos % 1000) ++ "µs"
  else toString d.nanos ++ "ns"

/-! ## Seconds as doubles -/

/-- the span in seconds: the whole part and the fraction are rounded, divided and added in double precision -/
def toDouble (d : Duration) : Double :=
  .add (.ofNat d.secs) (.div (.ofNat d.subsec) (.ofNat nanosPerSecond))

/-- a double of seconds to the nearest nanosecond, a half to the even one; none if it is negative, too long or no
number -/
def ofDouble? : Double → Option Duration
  | .fin s m e =>
    if s && m != 0 then none
    else ofNanos? (Double.roundHalfEven (Double.units m e * nanosPerSecond) Double.unit)
  | _ => none

end Duration

end ServiceMonitor
