import ServiceMonitor.Bus.Registry
import ServiceMonitor.Error

/-!
The manager of the notification backends.

The manager is subscribed to every kind of event and hands each event to every backend registered at that moment. All of
them are notified at once: each begins in turn and ends after its own delay, whatever it returns. They share one task,
though: one that panics takes those with it that have not ended.

With synchronous dispatch the publisher waits for the whole of it. With asynchronous dispatch a delivery is a task of its own:
it has been spawned first (`spawned`), then begun, and its later records are due at their times (`pending`).

Closing ends the subscription, takes all backends out and closes them one after the other.
-/

namespace ServiceMonitor.Notifier

open Bus (Dispatch)

inductive Ending where
  | returns
  | fails (e : NotifierError)
  | panics
  deriving DecidableEq, Repr

/-- a backend by its behaviour; times in milliseconds -/
structure Backend where
  name : String
  delay : Nat
  ending : Ending
  closeDelay : Nat
  closeFault : Option NotifierError
  /-- it leaves no records -/
  silent : Bool
  deriving DecidableEq, Repr

inductive Moment where
  | notifyBegin (event : Event)
  | notifyEnd (event : Event)
  | closeBegin
  | closeEnd
  deriving DecidableEq, Repr

structure Record where
  backend : Backend
  moment : Moment
  time : Nat
  deriving DecidableEq, Repr

/-! ## One event -/

/-- every backend begins in turn; one without delay ends at once, and one of these that panics is the last. The backends
that are still under way are returned, none if all is lost -/
def beginAll (t : Nat) (e : Event) : List Backend → List Record × Option (List Backend)
  | [] => ([], some [])
  | b :: bs =>
    let began : Record := ⟨b, .notifyBegin e, t⟩
    if b.delay = 0 then
      if b.ending = .panics then ([began, ⟨b, .notifyEnd e, t⟩], none)
      else
        let (rs, waiting) := beginAll t e bs
        (began :: ⟨b, .notifyEnd e, t⟩ :: rs, waiting)
    else
      let (rs, waiting) := beginAll t e bs
      (began :: rs, waiting.map (b :: ·))

/-- backends in the order of their delays, those of one delay as they were registered -/
def byDelay (bs : List Backend) : List Backend := bs.mergeSort fun a b => a.delay ≤ b.delay

/-- backends end in this order, up to one that panics -/
def endAll (t : Nat) (e : Event) : List Backend → List Record
  | [] => []
  | b :: bs =>
    let ended : Record := ⟨b, .notifyEnd e, t + b.delay⟩
    if b.ending = .panics then [ended] else ended :: endAll t e bs

/-- an event delivered to backends at a time: the records at once and those that follow -/
def deliver (t : Nat) (e : Event) (bs : List Backend) : List Record × List Record :=
  let (now, waiting) := beginAll t e bs
  (now, endAll t e (byDelay (waiting.getD [])))

/-- when the last of some records was made -/
def lastTime (t : Nat) (rs : List Record) : Nat := rs.foldl (fun m r => max m r.time) t

/-! ## The manager -/

structure St where
  mode : Dispatch
  now : Nat
  subscribed : Bool
  backends : List Backend
  /-- deliveries that have not begun -/
  spawned : List Event
  /-- records of deliveries under way, each due at its time -/
  pending : List Record
  log : List Record

def start (mode : Dispatch) : St := ⟨mode, 0, true, [], [], [], []⟩

def St.counts (s : St) : List Nat := Kind.all.map fun _ => if s.subscribed then 1 else 0

def St.register (s : St) (b : Backend) : St := { s with backends := s.backends ++ [b] }

/-- an event is published; the clock goes on if the publisher waits -/
def St.publish (s : St) (e : Event) : St :=
  if !s.subscribed then s
  else
    match s.mode with
    | .async => { s with spawned := s.spawned ++ [e] }
    | .sync =>
      let (now, later) := deliver s.now e s.backends
      { s with log := s.log ++ now ++ later, now := lastTime s.now later }

/-- a spawned delivery begins with the backends registered now -/
def St.beginOne (s : St) (e : Event) : St :=
  let (now, later) := deliver s.now e s.backends
  { s with log := s.log ++ now, pending := s.pending ++ later }

def St.settle (s : St) : St := s.spawned.foldl St.beginOne { s with spawned := [] }

def St.advanceTo (s : St) (t : Nat) : St :=
  let due := (s.pending.filter fun r => r.time ≤ t).mergeSort fun a b => a.time ≤ b.time
  { s with now := t, log := s.log ++ due, pending := s.pending.filter fun r => t < r.time }

def St.closeOne (s : St) (b : Backend) : St :=
  let began : St := { s with log := s.log ++ [⟨b, .closeBegin, s.now⟩] }
  let waited := began.advanceTo (s.now + b.closeDelay)
  let ended : Record := ⟨b, .closeEnd, waited.now⟩
  { waited with log := waited.log ++ [ended] }

/-- the subscription ends and every backend is closed; the last error is returned -/
def St.close (s : St) : St × Option NotifierError :=
  let emptied := { s with subscribed := false, backends := [] }
  (s.backends.foldl St.closeOne emptied, (s.backends.filterMap (·.closeFault)).getLast?)

end ServiceMonitor.Notifier
