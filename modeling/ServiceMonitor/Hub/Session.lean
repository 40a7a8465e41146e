import ServiceMonitor.Api.Router
import ServiceMonitor.Hub.Run

/-!
Clients on the other side of the hub.

A connection carries frames to its client through a pipe of limited capacity: what does not fit waits, and with it the write
it belongs to. `pump` moves on everything that can move: hub tasks that have something to do, frames into the pipe, writes that
are through or late. `receive` is the client's side; reading makes room, so it goes on for a few turns. A client that says
goodbye is answered only behind a write that is still under way.
-/

namespace ServiceMonitor.Hub

open Http (Bytes)

/-- what goes to a client: what the write task writes, and answers to what the client sent -/
inductive Frame where
  | outgoing (o : Outgoing)
  | pong (payload : Bytes)
  | closeReply
  deriving DecidableEq, Repr

/-- the length of a ping message, whose instant has nine fraction digits -/
def pingLength : Nat := 75

/-- a payload's length with the header that it needs -/
def framed (n : Nat) : Nat := if n < 126 then n + 2 else if n < 65536 then n + 4 else n + 10

def Frame.size : Frame → Nat
  | .outgoing (.message text) => framed text.utf8ByteSize
  | .outgoing .ping => framed pingLength
  | .outgoing .close => framed 0
  | .pong payload => framed payload.length
  | .closeReply => framed 0

structure Connection where
  label : String
  /-- the client's place in the hub -/
  client : Nat
  /-- everything that was put on the way, in order -/
  frames : List Frame
  /-- bytes that have gone into the pipe -/
  sent : Nat
  /-- bytes that the client has read -/
  taken : Nat
  /-- frames that the client has been shown -/
  told : Nat
  /-- the client is gone -/
  gone : Bool
  /-- the client has said goodbye; nothing more can be written after that -/
  closing : Bool

structure Session where
  hub : St
  connections : List Connection
  capacity : Nat

def Session.start (limits : Limits) (capacity : Nat) : Session := ⟨Hub.start limits, [], capacity⟩

/-! ## Frames -/

def sizes : List Frame → Nat
  | [] => 0
  | f :: fs => f.size + sizes fs

/-- how many of the frames a client has entirely after so many bytes -/
def complete : Nat → List Frame → Nat
  | _, [] => 0
  | n, f :: fs => if f.size ≤ n then complete (n - f.size) fs + 1 else 0

/-- frames of the write task among all -/
def outgoingCount (fs : List Frame) : Nat :=
  (fs.filter fun f => match f with
    | .outgoing _ => true
    | _ => false).length

/-- puts what the write task has begun on the way, and as much as fits into the pipe; nothing goes to a client that is gone
or from a hub that has let go -/
def Connection.flush (capacity : Nat) (client : Client) (c : Connection) : Connection :=
  let fresh := if c.closing then [] else client.begun.drop (outgoingCount c.frames)
  let frames := c.frames ++ fresh.map .outgoing
  if c.gone || client.isOver then { c with frames := frames }
  else { c with frames := frames, sent := min (sizes frames) (c.taken + capacity) }

/-! ## Moving on -/

def nextOf (now i : Nat) (c : Client) (conn : Connection) : Option Act :=
  if c.reading && c.cancelled then some (.endRead i)
  else if c.reading && conn.gone then some (.hangUp i)
  else
    match c.writer with
    | .waiting pingAt =>
      if c.cancelled || (!c.registered && c.queue.isEmpty) then some (.leave i)
      else if !c.queue.isEmpty then some (.take i)
      else if pingAt ≤ now then some (.ping i)
      else none
    | .writing what deadline =>
      if conn.gone || (conn.closing && what = .close) then some (.broken i)
      else if sizes conn.frames ≤ conn.sent then some (.wrote i)
      else
        match deadline with
        | some d => if d ≤ now then some (.late i) else none
        | none => none
    | .done => none

def Session.flush (s : Session) : Session :=
  { s with connections := s.connections.map fun c =>
      match s.hub.clients[c.client]? with
      | some client => c.flush s.capacity client
      | none => c }

def Session.next? (s : Session) : Option Act :=
  if s.hub.loop = .running && s.hub.stopped then some .endLoop
  else if s.hub.loop = .running && !s.hub.channel.isEmpty then some .dispatch
  else
    s.connections.findSome? fun conn =>
      (s.hub.clients[conn.client]?).bind fun c => nextOf s.hub.now conn.client c conn

/-- everything that can move at this time does -/
def pump : Nat → Session → Session
  | 0, s => s
  | fuel + 1, s =>
    let s := s.flush
    match s.next? with
    | some a => pump fuel { s with hub := step s.hub a }
    | none => s

def Session.act (fuel : Nat) (s : Session) (a : Act) : Session := pump fuel { s with hub := step s.hub a }

/-- the earliest time somebody waits for -/
def Session.nextDue (s : Session) : Option Nat := (s.hub.clients.filterMap Client.due?).min?

def advance (fuel : Nat) : Nat → Nat → Session → Session
  | 0, _, s => s
  | turns + 1, target, s =>
    match s.nextDue with
    | some t => if t ≤ target then advance fuel turns target (s.act fuel (.tick t)) else s.act fuel (.tick target)
    | none => s.act fuel (.tick target)

/-- the hub is stopped; the clock goes on until its tasks have ended -/
def drain (fuel : Nat) : Nat → Session → Session
  | 0, s => s
  | turns + 1, s =>
    if s.hub.isIdle then s
    else
      match s.nextDue with
      | some t => drain fuel turns (s.act fuel (.tick t))
      | none => s

def Session.stop (fuel : Nat) (s : Session) : Session := drain fuel fuel (s.act fuel .stop)

/-- events are broadcast while nobody else gets a turn; how many clients accepted each -/
def Session.broadcast (s : Session) : List Event → Session × List Nat
  | [] => (s, [])
  | e :: es =>
    let accepted := s.hub.accepting
    let (s, rest) := Session.broadcast { s with hub := s.hub.broadcast e } es
    (s, accepted :: rest)

/-! ## The client's side -/

/-- what a client asks for when it connects: the headers of a switch, and its own -/
def handshake (target : Bytes) (headers : List (String × Bytes)) : Except Http.RequestError Http.Request :=
  let trimmed (v : Bytes) : Bytes :=
    let blank (b : UInt8) : Bool := b = 0x20 || b = 0x09
    ((v.dropWhile blank).reverse.dropWhile blank).reverse
  Http.Request.make "GET" target
    ([("connection", Utf8.ofString "Upgrade"), ("upgrade", Utf8.ofString "websocket"),
        ("sec-websocket-version", Utf8.ofString "13"), ("sec-websocket-key", Utf8.ofString "AAAAAAAAAAAAAAAAAAAAAA==")]
      ++ headers.map fun h => (h.1, trimmed h.2))

def Session.connect (fuel : Nat) (s : Session) (label : String) : Session :=
  let others := s.connections.map fun c => if c.label = label then { c with gone := true, label := "" } else c
  let connection : Connection := ⟨label, s.hub.clients.length, [], 0, 0, 0, false, false⟩
  pump fuel { s with hub := step s.hub .connect, connections := others ++ [connection] }

def Session.find? (s : Session) (label : String) : Option Connection := s.connections.find? fun c => c.label = label

def Session.update (s : Session) (label : String) (f : Connection → Connection) : Session :=
  { s with connections := s.connections.map fun c => if c.label = label then f c else c }

inductive Sending where
  /-- a message, which means nothing to the hub -/
  | message
  | ping (payload : Bytes)
  /-- goodbye -/
  | close
  /-- something that is no frame -/
  | garbage

/-- the hub's side of a connection is over -/
def Session.isOver (s : Session) (c : Connection) : Bool :=
  match s.hub.clients[c.client]? with
  | some client => client.isOver
  | none => true

/-- a client sends something; false if nobody is there any more -/
def Session.send (fuel : Nat) (s : Session) (label : String) (what : Sending) : Session × Bool :=
  match s.find? label with
  | none => (s, false)
  | some c =>
    if c.gone || s.isOver c then (s, false)
    else
      match what with
      | .message => (s, true)
      | .ping payload =>
        let reading := (s.hub.clients[c.client]?.map (·.reading)).getD false
        let s := s.update label fun c => if reading then { c with frames := c.frames ++ [.pong payload] } else c
        (pump fuel s, true)
      | .close =>
        let busy := match (s.hub.clients[c.client]?).map (·.writer) with
          | some (.writing ..) => true
          | _ => false
        let s := s.update label fun c =>
          { c with closing := true, frames := if busy then c.frames ++ [.closeReply] else c.frames }
        (s.act fuel (.hangUp c.client), true)
      | .garbage => (s.act fuel (.hangUp c.client), true)

def Session.vanish (fuel : Nat) (s : Session) (label : String) : Session :=
  pump fuel (s.update label fun c => { c with gone := true })

def readTurns : Nat := 4

def Session.readAll (fuel : Nat) (label : String) : Nat → Session → Session
  | 0, s => s
  | turns + 1, s =>
    Session.readAll fuel label turns (pump fuel (s.update label fun c => { c with taken := c.sent }))

/-- everything a client can read now, and whether the connection is over -/
def Session.receive (fuel : Nat) (s : Session) (label : String) : Session × List Frame × Bool :=
  let s := s.readAll fuel label readTurns
  match s.find? label with
  | none => (s, [], true)
  | some c =>
    let read := complete c.taken c.frames
    let frames := (c.frames.take read).drop c.told
    let ended := c.gone || (s.isOver c && c.sent ≤ c.taken)
    (s.update label fun c => { c with told := read }, frames, ended)

end ServiceMonitor.Hub
