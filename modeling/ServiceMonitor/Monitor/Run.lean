import ServiceMonitor.Monitor.Worker

/-!
Runs of the monitor.

`step` is one thing that happens: the monitor is started or told to stop, the clock goes on, a worker goes on, or a
waiting worker notices the stop. A thing that cannot happen changes nothing: no worker goes on before its time, the clock does
not pass the time of a worker, and it stands still while a worker has yet to notice the stop. Where a worker could both go on and
notice the stop, either may happen.

`settle`, `advance` and `stop` choose one run: workers in the order of their targets, the stop noticed first.
-/

namespace ServiceMonitor.Monitor

/-- what a monitor runs with; `hold` is how long the publishing of the n-th change takes -/
structure Setup where
  targets : List Target
  policy : Policy
  hold : Nat → Change → Nat

inductive Lifecycle where
  | idle
  | running
  | stopped
  deriving DecidableEq, Repr

structure St where
  now : Nat
  lifecycle : Lifecycle
  tracker : Tracker
  workers : List Worker
  log : List (Nat × Change)

def start (c : Setup) : St := ⟨0, .idle, .start c.policy.skipFirst, [], []⟩

inductive Act where
  | start
  | stop
  /-- worker `i` goes on -/
  | go (i : Nat)
  /-- worker `i` notices the stop -/
  | quit (i : Nat)
  /-- the clock goes on -/
  | tick (t : Nat)
  deriving DecidableEq, Repr

def St.startable (s : St) : Except MonitorError Unit :=
  match s.lifecycle with
  | .idle => .ok ()
  | .running => .error .alreadyStarted
  | .stopped => .error .stopped

/-- a worker has something to do at this time -/
def St.isReady (s : St) (w : Worker) : Bool :=
  match w.phase.due? with
  | some due => due ≤ s.now
  | none => false

/-- a worker has yet to notice the stop -/
def St.mustQuit (s : St) (w : Worker) : Bool := s.lifecycle = .stopped && w.phase.isWaiting

/-- the clock can go on to `t`: nobody has something to do before -/
def St.canTick (s : St) (t : Nat) : Bool :=
  s.now ≤ t && s.workers.all fun w =>
    !s.isReady w && !s.mustQuit w &&
      match w.phase.due? with
      | some due => t ≤ due
      | none => true

def step (c : Setup) (s : St) : Act → St
  | .start =>
    match s.lifecycle with
    | .idle => { s with lifecycle := .running, workers := c.targets.map fun _ => .spawned }
    | _ => s
  | .stop => { s with lifecycle := .stopped }
  | .go i =>
    match c.targets[i]?, s.workers[i]? with
    | some t, some w =>
      if s.isReady w then
        let (w, tracker, change) := w.go c.policy (c.hold s.log.length) t s.now s.tracker
        { s with
          tracker := tracker
          workers := s.workers.set i w
          log := s.log ++ (change.map fun ch => (s.now, ch)).toList }
      else s
    | _, _ => s
  | .quit i =>
    match s.workers[i]? with
    | some w => if s.mustQuit w then { s with workers := s.workers.set i w.quit } else s
    | none => s
  | .tick t => if s.canTick t then { s with now := t } else s

def run (c : Setup) (s : St) (acts : List Act) : St := acts.foldl (step c) s

def St.runningTasks (s : St) : Nat := (s.workers.filter fun w => !w.phase.isDone).length

/-! ## One run -/

/-- what happens next at this time, if anything -/
def St.next? (s : St) : Option Act :=
  let pick (i : Nat) (w : Worker) : Option Act :=
    if s.mustQuit w then some (.quit i) else if s.isReady w then some (.go i) else none
  (s.workers.zipIdx.findSome? fun (w, i) => pick i w)

def settle (c : Setup) : Nat → St → St
  | 0, s => s
  | fuel + 1, s =>
    match s.next? with
    | some a => settle c fuel (step c s a)
    | none => s

def St.nextDue (s : St) : Option Nat := (s.workers.filterMap fun w => w.phase.due?).min?

def advance (c : Setup) (fuel : Nat) : Nat → Nat → St → St
  | 0, _, s => s
  | turns + 1, target, s =>
    match s.nextDue with
    | some t =>
      if t ≤ target then advance c fuel turns target (settle c fuel (step c s (.tick t))) else step c s (.tick target)
    | none => step c s (.tick target)

/-- lets the clock go on until every worker has ended -/
def drain (c : Setup) (fuel : Nat) : Nat → St → St
  | 0, s => s
  | turns + 1, s =>
    if s.runningTasks = 0 then s
    else
      match s.nextDue with
      | some t => drain c fuel turns (settle c fuel (step c s (.tick t)))
      | none => s

def stop (c : Setup) (fuel : Nat) (s : St) : St := drain c fuel fuel (settle c fuel (step c s .stop))

end ServiceMonitor.Monitor
