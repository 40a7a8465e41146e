import ServiceMonitor.Monitor.Target
import ServiceMonitor.Tracker

/-!
The task that observes one target.

A worker is always in one phase, and each phase says when it can go on (`due?`). `go` takes it from one phase to the next:

* polling: wait for the tick, list, report, wait for the next tick;
* pushing: open a subscription, list once (what changed while there was none), report, then report what the stream yields;
  a lost stream or a failed attempt is reported, then comes a pause and the next attempt, or after too many failures in a row
  polling for good.

Reports go through the tracker one by one, and each change is published before the next report. A provider that is
permanently unavailable at the very first attempt ends the worker without a word. While a worker waits for a tick, an
attempt, an item or the end of a pause it can be stopped (`isWaiting`); a list call under way is seen through, and so are its
reports.
-/

namespace ServiceMonitor.Monitor

inductive Report where
  | success
  | failure (reason : String)
  | observe (o : Observation)
  deriving DecidableEq, Repr

inductive Next where
  | tick (next : Tick)
  | listen (stream : Stream)
  | reopen

inductive Phase where
  | fresh
  /-- before a poll -/
  | ticking (tick : Tick)
  /-- in the list call of a poll -/
  | polling (next : Tick) (ends : Nat) (answer : ListAnswer)
  /-- before a subscription attempt -/
  | subscribing
  | opening (ends : Nat) (answer : OpenAnswer)
  /-- in the list call after a subscription was opened -/
  | resyncing (stream : Stream) (ends : Nat) (answer : ListAnswer)
  /-- on an open stream: the item to come and when, and what comes after it -/
  | listening (item : Option (Nat × Item)) (rest : Stream)
  /-- telling the tracker; the next report waits until `free` -/
  | reporting (free : Nat) (reports : List Report) (next : Next)
  /-- before the next attempt -/
  | pausing (until_ : Nat)
  | done

namespace Phase

/-- when the phase can go on; none if nothing will make it -/
def due? : Phase → Option Nat
  | fresh | subscribing => some 0
  | ticking tick => some tick.fires
  | polling _ ends _ | opening ends _ | resyncing _ ends _ => some ends
  | listening item _ => item.map (·.1)
  | reporting free _ _ => some free
  | pausing until_ => some until_
  | done => none

/-- the phase can be stopped -/
def isWaiting : Phase → Bool
  | ticking _ | subscribing | opening .. | listening .. | pausing _ => true
  | _ => false

def isDone : Phase → Bool
  | done => true
  | _ => false

def listen (now : Nat) : Stream → Phase
  | [] => listening none []
  | (after, item) :: rest => listening (some (now + after, item)) rest

end Phase

structure Worker where
  phase : Phase
  /-- nothing has been attempted yet -/
  startup : Bool
  /-- consecutive failures of the subscription -/
  failures : Nat
  /-- list calls made -/
  lists : Nat
  /-- subscription attempts made -/
  subscribes : Nat

namespace Worker

def spawned : Worker := ⟨.fresh, true, 0, 0, 0⟩

/-- a list call begins: when it is over, and with what answer -/
def list (p : Policy) (t : Target) (now : Nat) (w : Worker) : (Nat × ListAnswer) × Worker :=
  (p.limited (.timeout p.timeout) now (t.provider.list w.lists), { w with lists := w.lists + 1 })

def subscribe (p : Policy) (t : Target) (now : Nat) (w : Worker) : Worker :=
  let (ends, answer) := p.limited (.opening (.timeout p.timeout)) now (t.provider.subscribe w.subscribes)
  { w with phase := .opening ends answer, subscribes := w.subscribes + 1 }

/-- what a list call has to tell -/
def reportsOf : ListAnswer → List Report
  | .ok os => .success :: os.map .observe
  | .error e => [.failure e.message]

def fail (now : Nat) (reason : String) (w : Worker) : Worker :=
  { w with phase := .reporting now [.failure reason] .reopen, failures := w.failures + 1 }

/-- after a failure: another attempt after a pause, or polling from now on. A policy without a delay breaks the task off -/
def reopen (p : Policy) (now : Nat) (w : Worker) : Worker :=
  if p.backoff.exhausted w.failures then { w with phase := .ticking (p.firstTick now) }
  else
    match p.backoff.next? (w.failures - 1) with
    | some delay => { w with phase := .pausing (now + p.clock.up delay.nanos) }
    | none => { w with phase := .done }

def isPermanent : ListAnswer → Bool
  | .error e => e.isPermanent
  | .ok _ => false

def closedByProvider : String := "subscription closed by provider"

/-- the next phase of a worker that can go on; only a report concerns the tracker -/
def proceed (p : Policy) (t : Target) (now : Nat) (w : Worker) : Worker :=
  match w.phase with
  | .fresh =>
    if t.strategy = .push && t.provider.pushes then { w with phase := .subscribing }
    else { w with phase := .ticking (p.firstTick now) }
  | .ticking tick =>
    let ((ends, answer), w) := w.list p t now
    { w with phase := .polling (p.nextTick tick now) ends answer }
  | .polling next _ answer =>
    if w.startup && isPermanent answer then { w with phase := .done }
    else { w with phase := .reporting now (reportsOf answer) (.tick next), startup := false }
  | .subscribing => w.subscribe p t now
  | .opening _ answer =>
    match answer with
    | .ok stream =>
      let ((ends, answer), w) := w.list p t now
      { w with phase := .resyncing stream ends answer, startup := false, failures := 0 }
    | .error .unsupported => { w with phase := .ticking (p.firstTick now) }
    | .error e =>
      if w.startup && e.isPermanent then { w with phase := .done }
      else { w.fail now e.message with startup := false }
  | .resyncing stream _ answer => { w with phase := .reporting now (reportsOf answer) (.listen stream) }
  | .listening (some (_, .observation o)) rest =>
    { w with phase := .reporting now [.success, .observe o] (.listen rest) }
  | .listening (some (_, .fault e)) _ => w.fail now e.message
  | .listening (some (_, .closed)) _ => w.fail now closedByProvider
  | .listening none _ => w
  | .reporting _ [] next =>
    match next with
    | .tick next => { w with phase := .ticking next }
    | .listen stream => { w with phase := .listen now stream }
    | .reopen => w.reopen p now
  | .reporting _ (_ :: reports) next => { w with phase := .reporting now reports next }
  | .pausing _ => { w with phase := .subscribing }
  | .done => w

def tell (t : Target) (tracker : Tracker) : Report → Tracker × Option Change
  | .success => tracker.success t.host
  | .failure reason => tracker.failure t.host reason
  | .observe o => tracker.observe t.host t.provider.source o

/-- a worker goes on: its next phase, the tracker, and the change to publish; publishing one takes `hold` of it -/
def go (p : Policy) (hold : Change → Nat) (t : Target) (now : Nat) (tracker : Tracker) (w : Worker) :
    Worker × Tracker × Option Change :=
  match w.phase with
  | .reporting _ (r :: reports) next =>
    let (tracker, change) := tell t tracker r
    let busy := (change.map hold).getD 0
    ({ w with phase := .reporting (now + busy) reports next }, tracker, change)
  | _ => (w.proceed p t now, tracker, none)

def quit (w : Worker) : Worker := { w with phase := .done }

end Worker

end ServiceMonitor.Monitor
