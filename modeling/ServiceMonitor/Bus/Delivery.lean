import ServiceMonitor.Bus.Registry

/-!
How a published event reaches its handlers.

A handler is a program: the actions it takes when it is called, which may depend on the event and on how often it was called
before. A task is the code that is still to be run: invocations of handlers and, once one has begun, the actions of its
handler up to the end of the invocation. `exec` runs the first instruction of a task. With synchronous dispatch the
publisher's own code goes on with one invocation after the other; with asynchronous dispatch each invocation becomes a task
of its own and the publisher goes on at once. A handler that panics loses the rest of its own invocation and nothing else.

Whoever is registered when an event is published gets it: the registrations are looked up once, then.

The state keeps the registry, the log and the clock. Tasks run in rounds (`settle`): one that lets others run comes back in
the next round, one that waits sleeps until the clock reaches it (`advance`). How far a run gets is bounded by fuel,
because handlers may publish without an end.
-/

namespace ServiceMonitor.Bus

inductive Action where
  /-- writes the event into the log -/
  | note
  | wait (ms : Nat)
  /-- lets other tasks run first -/
  | yield
  | panic
  /-- ends one subscription -/
  | cancel (id : Nat)
  /-- ends every subscription ever made under a label -/
  | unsubscribe (label : String)
  /-- adds a handler -/
  | subscribe (label : String) (kinds : List Kind) (program : Nat → Event → List Action)
  | publish (event : Event)

/-- what a handler does, by how often it was called before and by the event -/
abbrev Program := Nat → Event → List Action

/-- what is called for an event; registrations of one handler share the number under which its calls are counted -/
structure Handler where
  label : String
  number : Nat
  program : Program

structure Entry where
  label : String
  time : Nat
  event : Event
  deriving DecidableEq, Repr

inductive Instr where
  | invoke (g : Registration Handler) (event : Event)
  | act (g : Registration Handler) (event : Event) (action : Action)
  /-- the end of an invocation, where a panic is caught -/
  | ended (g : Registration Handler)

/-- what a task still has to do -/
abbrev Code := List Instr

structure St where
  mode : Dispatch
  now : Nat
  /-- none once the bus is gone -/
  registry? : Option (Registry Handler)
  /-- every subscription ever made, with its label -/
  handles : List (String × Subscription)
  /-- how often each handler was called -/
  calls : List Nat
  log : List Entry
  /-- tasks that can run, in the order they became able to -/
  ready : List Code
  /-- tasks that let others run first -/
  yielded : List Code
  /-- tasks that wait for a time, in the order they fell asleep -/
  sleeping : List (Nat × Code)

def start (mode : Dispatch) : St := ⟨mode, 0, some .empty, [], [], [], [], [], []⟩

/-! ## Subscriptions -/

/-- how many handlers there are of each kind -/
def St.counts? (s : St) : Option (List Nat) := s.registry?.map (·.counts)

/-- registers a handler for kinds under its label -/
def St.register (s : St) (kinds : List Kind) (h : Handler) : St × List Subscription :=
  match s.registry? with
  | none => (s, [])
  | some r =>
    let (r, subs) := r.subscribeEach kinds h
    ({ s with registry? := some r, handles := s.handles ++ subs.map fun sub => (h.label, sub) }, subs)

def St.subscribe (s : St) (label : String) (kinds : List Kind) (program : Program) : St × List Subscription :=
  let s' := { s with calls := s.calls ++ [0] }
  s'.register kinds ⟨label, s.calls.length, program⟩

def St.cancel (s : St) (id : Nat) : St := { s with registry? := s.registry?.map fun r => r.unsubscribe id }

/-- ends every subscription ever made under a label -/
def St.unsubscribe (s : St) (label : String) : St :=
  let ids := (s.handles.filter fun h => h.1 = label).map (·.2.id)
  { s with registry? := s.registry?.map fun r => ids.foldl (·.unsubscribe ·) r }

/-- the bus is given up; subscriptions outlive it -/
def St.drop (s : St) : St := { s with registry? := none }

def St.audience (s : St) (e : Event) : List (Registration Handler) :=
  match s.registry? with
  | none => []
  | some r => r.ofKind e.kind

/-! ## Running -/

/-- what is left behind the current invocation -/
def afterInvocation : Code → Code
  | [] => []
  | .ended _ :: code => code
  | _ :: code => afterInvocation code

inductive Outcome where
  | goOn (code : Code)
  | pause (until_ : Nat) (code : Code)
  | yield (code : Code)

/-- the code of an invocation that takes the given actions -/
def invocation (g : Registration Handler) (e : Event) (actions : List Action) : Code :=
  actions.map (.act g e) ++ [.ended g]

/-- publishing in front of `code`: the invocations come first, or become tasks of their own -/
def St.publish (s : St) (e : Event) (code : Code) : St × Code :=
  let calls : Code := (s.audience e).map fun g => .invoke g e
  match s.mode with
  | .sync => (s, calls ++ code)
  | .async => ({ s with ready := s.ready ++ calls.map fun c => [c] }, code)

def St.callsOf (s : St) (h : Handler) : Nat := s.calls[h.number]?.getD 0

def exec (s : St) (i : Instr) (code : Code) : St × Outcome :=
  match i with
  | .invoke g e =>
    let n := s.callsOf g.handler
    ({ s with calls := s.calls.set g.handler.number (n + 1) }, .goOn (invocation g e (g.handler.program n e) ++ code))
  | .ended _ => (s, .goOn code)
  | .act g e a =>
    match a with
    | .note => ({ s with log := s.log ++ [⟨g.handler.label, s.now, e⟩] }, .goOn code)
    | .wait ms => (s, if ms = 0 then .goOn code else .pause (s.now + ms) code)
    | .yield => (s, .yield code)
    | .panic => (s, .goOn (afterInvocation code))
    | .cancel id => (s.cancel id, .goOn code)
    | .unsubscribe label => (s.unsubscribe label, .goOn code)
    | .subscribe label kinds program => ((s.subscribe label kinds program).1, .goOn code)
    | .publish e' =>
      let (s, code) := s.publish e' code
      (s, .goOn code)

/-- runs a task until it waits, lets others run, or is through -/
def runTask : Nat → St → Code → St
  | 0, s, _ => s
  | _, s, [] => s
  | fuel + 1, s, i :: code =>
    match exec s i code with
    | (s, .goOn code) => runTask fuel s code
    | (s, .pause due code) => { s with sleeping := s.sleeping ++ [(due, code)] }
    | (s, .yield code) => { s with yielded := s.yielded ++ [code] }

/-- one instruction of a publisher's own code; where it waits, the clock goes on with it -/
def turn (s : St) (i : Instr) (code : Code) : St × Code :=
  match exec s i code with
  | (s, .goOn code) => (s, code)
  | (s, .pause due code) => ({ s with now := due }, code)
  | (s, .yield code) => (s, code)

def finish : Nat → St → Code → St
  | 0, s, _ => s
  | _, s, [] => s
  | fuel + 1, s, i :: code => finish fuel (turn s i code).1 (turn s i code).2

def runReady : Nat → St → St
  | 0, s => s
  | fuel + 1, s =>
    match s.ready with
    | [] => s
    | task :: rest => runReady fuel (runTask fuel { s with ready := rest } task)

/-- one round: every task that can run does; those that let others run are next -/
def settle (fuel : Nat) (s : St) : St :=
  let s := runReady fuel s
  { s with ready := s.ready ++ s.yielded, yielded := [] }

def settleAll : Nat → St → St
  | 0, s => s
  | fuel + 1, s => if s.ready.isEmpty then s else settleAll fuel (settle fuel s)

/-- the earliest time a task waits for -/
def St.nextDue (s : St) : Option Nat := (s.sleeping.map (·.1)).min?

def St.wake (s : St) (t : Nat) : St :=
  let due := s.sleeping.filter fun p => p.1 ≤ t
  { s with
    now := t
    sleeping := s.sleeping.filter fun p => t < p.1
    ready := s.ready ++ due.map (·.2) }

/-- lets the clock go on to a time: whatever is due before is done entirely, and at the end there is one round -/
def advance : Nat → Nat → St → St
  | 0, target, s => s.wake target
  | fuel + 1, target, s =>
    let s := if s.now < target then settleAll fuel s else s
    match s.nextDue with
    | some t => if t < target then advance fuel target (s.wake t) else settle fuel (s.wake target)
    | none => settle fuel (s.wake target)

/-- an event is published from outside; returns when the publisher may go on -/
def deliver (fuel : Nat) (s : St) (e : Event) : St :=
  let (s, code) := s.publish e []
  finish fuel s code

end ServiceMonitor.Bus
