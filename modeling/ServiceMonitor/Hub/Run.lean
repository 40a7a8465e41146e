import ServiceMonitor.Bus.Registry
import ServiceMonitor.Hub.Limits
import ServiceMonitor.Hub.Wire

/-!
The hub: events from the bus go to every connected client.

Once started the hub is subscribed to every kind of event; what it receives waits in a channel for the dispatch loop, which
broadcasts it. Each client has a queue of its own, drained by its write task, and a read task that watches for the end of the
connection. A client whose queue is full when something is broadcast is dropped; so is one whose connection ends, fails, or
takes too long over one write. Dropping a client cancels both of its tasks; the write task says goodbye if it can.

`step` is one thing that happens; a thing that cannot happen changes nothing. Where a write task could both take a message and
notice that it is cancelled, either may happen. The clock does not pass a deadline, and it stands still while a task has
something to do (`canTick`).
-/

namespace ServiceMonitor.Hub

inductive Outgoing where
  | message (text : String)
  | ping
  | close
  deriving DecidableEq, Repr

inductive Writer where
  /-- for a message, or for the time of the next ping -/
  | waiting (pingAt : Nat)
  /-- one write, up to a deadline if there is one -/
  | writing (what : Outgoing) (deadline : Option Nat)
  | done
  deriving DecidableEq, Repr

/-- a connection and its two tasks -/
structure Client where
  id : Nat
  /-- it is in the hub's map -/
  registered : Bool
  /-- its tasks are told to end -/
  cancelled : Bool
  queue : List String
  writer : Writer
  /-- the read task is alive -/
  reading : Bool
  /-- what has been written entirely, in order -/
  written : List Outgoing
  deriving DecidableEq, Repr

/-- the dispatch loop -/
inductive Loop where
  | absent
  | running
  | done
  deriving DecidableEq, Repr

structure St where
  limits : Limits
  now : Nat
  /-- the bus, as far as the hub is subscribed to it -/
  registry : Bus.Registry Unit
  /-- what the hub has subscribed to and not ended -/
  subscriptions : List Bus.Subscription
  started : Bool
  stopped : Bool
  loop : Loop
  /-- events between the bus and the loop, those of publishers that wait for room included -/
  channel : List Event
  clients : List Client
  nextId : Nat
  /-- everything broadcast so far -/
  broadcasts : List String

def start (limits : Limits) : St := ⟨limits, 0, .empty, [], false, false, .absent, [], [], 0, []⟩

/-! ## Clients -/

/-- a queue holds at least one message -/
def Limits.capacity (l : Limits) : Nat := max l.queueCapacity 1

/-- the write task still takes messages -/
def Client.isOpen (c : Client) : Bool := c.writer != .done

/-- out of the map, both tasks told to end -/
def Client.drop (c : Client) : Client := if c.registered then { c with registered := false, cancelled := true } else c

def Client.accepts (capacity : Nat) (c : Client) : Bool := c.registered && c.isOpen && c.queue.length < capacity

/-- a text is offered to a client: queued if there is room, else a registered client is dropped -/
def Client.offer (capacity : Nat) (text : String) (c : Client) : Client :=
  if c.accepts capacity then { c with queue := c.queue ++ [text] } else c.drop

def Client.joined (id pingAt : Nat) : Client := ⟨id, true, false, [], .waiting pingAt, true, []⟩

/-- a connection that comes too late: it is told goodbye and nothing else -/
def Client.turnedAway (id : Nat) : Client := ⟨id, false, true, [], .writing .close none, false, []⟩

/-- what has been written, and the write under way -/
def Client.begun (c : Client) : List Outgoing :=
  match c.writer with
  | .writing what _ => c.written ++ [what]
  | _ => c.written

/-- both tasks are over -/
def Client.isOver (c : Client) : Bool := c.writer = .done && !c.reading

def St.clientCount (s : St) : Nat := (s.clients.filter (·.registered)).length

/-- the hub's subscriptions by kind -/
def St.subscribers (s : St) : List Nat := s.registry.counts

/-! ## Broadcasting -/

def St.accepting (s : St) : Nat := (s.clients.filter (·.accepts s.limits.capacity)).length

def St.broadcast (s : St) (e : Event) : St :=
  let text := (WireMessage.ofEvent e).text
  { s with
    clients := s.clients.map (·.offer s.limits.capacity text)
    broadcasts := s.broadcasts ++ [text] }

/-! ## What can happen -/

inductive Act where
  | start
  | stop
  /-- an event is published on the bus -/
  | publish (e : Event)
  /-- the loop broadcasts the next event -/
  | dispatch
  /-- the loop notices the stop -/
  | endLoop
  /-- an event is broadcast without the bus -/
  | broadcast (e : Event)
  /-- a connection is accepted -/
  | connect
  /-- write task `i` takes the next message of its queue -/
  | take (i : Nat)
  /-- write task `i` has been idle for too long -/
  | ping (i : Nat)
  /-- write task `i` is cancelled, or its queue has come to its end -/
  | leave (i : Nat)
  /-- the write of task `i` is through -/
  | wrote (i : Nat)
  /-- it takes too long -/
  | late (i : Nat)
  /-- it fails -/
  | broken (i : Nat)
  /-- read task `i` sees the end of the connection -/
  | hangUp (i : Nat)
  /-- read task `i` is cancelled -/
  | endRead (i : Nat)
  /-- the clock goes on -/
  | tick (t : Nat)
  deriving DecidableEq, Repr

def Client.isBusy (now : Nat) (c : Client) : Bool :=
  (c.reading && c.cancelled) ||
    match c.writer with
    | .waiting pingAt => c.cancelled || !c.queue.isEmpty || !c.registered || pingAt ≤ now
    | .writing .. | .done => false

/-- the time up to which the client's tasks can wait -/
def Client.due? (c : Client) : Option Nat :=
  match c.writer with
  | .waiting pingAt => some pingAt
  | .writing _ deadline => deadline
  | .done => none

def St.loopIsBusy (s : St) : Bool := s.loop = .running && (s.stopped || !s.channel.isEmpty)

/-- the clock can go on to `t` -/
def St.canTick (s : St) (t : Nat) : Bool :=
  s.now ≤ t && !s.loopIsBusy && s.clients.all fun c =>
    !c.isBusy s.now &&
      match c.due? with
      | some due => t ≤ due
      | none => true

def St.subscribe (s : St) : St :=
  let (r, subs) := s.registry.subscribeAll ()
  { s with registry := r, subscriptions := s.subscriptions ++ subs }

def St.unsubscribe (s : St) : St :=
  { s with
    registry := s.subscriptions.foldl (fun r sub => r.unsubscribe sub.id) s.registry
    subscriptions := [] }

def St.update (s : St) (i : Nat) (f : Client → Client) : St :=
  { s with clients := s.clients.modify i f }

def St.pingTime (s : St) : Nat := s.now + s.limits.pingInterval.millisUp

/-- a write that begins now -/
def St.begin (s : St) (what : Outgoing) : Writer := .writing what (some (s.now + s.limits.writeTimeout.millisUp))

/-- a write is through: after a goodbye the task is over, after anything else it waits again -/
def Client.wrote (pingAt : Nat) (c : Client) : Client :=
  match c.writer with
  | .writing .close _ => { c.drop with writer := .done, written := c.written ++ [.close] }
  | .writing what _ => { c with writer := .waiting pingAt, written := c.written ++ [what] }
  | _ => c

def Client.giveUp (c : Client) : Client :=
  match c.writer with
  | .writing .. => { c.drop with writer := .done }
  | _ => c

def step (s : St) : Act → St
  | .start =>
    if s.started then s else { s.subscribe with started := true, loop := .running }
  | .stop =>
    { s.unsubscribe with
      stopped := true
      clients := s.clients.map fun c => { c with registered := false, cancelled := true } }
  | .publish e =>
    if (s.registry.ofKind e.kind).isEmpty || s.loop != .running then s else { s with channel := s.channel ++ [e] }
  | .dispatch =>
    match s.channel with
    | [] => s
    | e :: rest => if s.loop = .running then { s with channel := rest }.broadcast e else s
  | .endLoop => if s.loop = .running && s.stopped then { s with loop := .done, channel := [] } else s
  | .broadcast e => s.broadcast e
  | .connect =>
    let c := if s.stopped then .turnedAway s.nextId else .joined s.nextId s.pingTime
    { s with clients := s.clients ++ [c], nextId := s.nextId + 1 }
  | .take i => s.update i fun c =>
      match c.writer, c.queue with
      | .waiting _, text :: rest => { c with queue := rest, writer := s.begin (.message text) }
      | _, _ => c
  | .ping i => s.update i fun c =>
      match c.writer with
      | .waiting pingAt => if pingAt ≤ s.now then { c with writer := s.begin .ping } else c
      | _ => c
  | .leave i => s.update i fun c =>
      match c.writer with
      | .waiting _ =>
        if c.cancelled || (!c.registered && c.queue.isEmpty) then { c with writer := s.begin .close } else c
      | _ => c
  | .wrote i => s.update i (·.wrote s.pingTime)
  | .late i => s.update i fun c =>
      match c.writer with
      | .writing _ (some deadline) => if deadline ≤ s.now then c.giveUp else c
      | _ => c
  | .broken i => s.update i (·.giveUp)
  | .hangUp i => s.update i fun c => if c.reading then { c.drop with reading := false } else c
  | .endRead i => s.update i fun c => if c.reading && c.cancelled then { c.drop with reading := false } else c
  | .tick t => if s.canTick t then { s with now := t } else s

def run (s : St) (acts : List Act) : St := acts.foldl step s

/-- every task that a stop waits for has ended; nobody waits for a connection that came too late -/
def St.isIdle (s : St) : Bool :=
  s.loop != .running && s.clients.all fun c =>
    match c.writer with
    | .writing _ none => true
    | _ => c.isOver

end ServiceMonitor.Hub
