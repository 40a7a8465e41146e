import ServiceMonitor.Event
import ServiceMonitor.Json.Reader

/-!
Events as JSON.

An event is an object whose member `kind` tells which other members it has. Reading takes the members in any order and
passes over those of other names; an array that starts with the kind and goes on with the fields in order is read too.
The kind is read first, wherever it stands, and the rest is kept as a tree until then: a fault of the text is found before a
fault of the fields.
-/

namespace ServiceMonitor

open Json (Error Reader Bytes)

/-! ## Writing -/

def Timestamp.json (t : Timestamp) : Json := .str t.text

/-- the members of a change, without its kind -/
def Change.members : Change → List (String × Json)
  | .service host name source old new =>
    [("host", .str host), ("service_name", .str name), ("source", .str source), ("old_state", .str old.text),
      ("new_state", .str new.text)]
  | .unreachable host reason => [("host", .str host), ("reason", .str reason)]
  | .recovered host => [("host", .str host)]

def Change.json (c : Change) : Json := .obj (("kind", .str c.kind.text) :: c.members)

def Event.members (e : Event) : List (String × Json) := e.change.members ++ [("timestamp", e.timestamp.json)]

def Event.json (e : Event) : Json := .obj (("kind", .str e.kind.text) :: e.members)

/-! ## Reading the fields from a tree -/

namespace Event

/-- the fields of an event of any kind; each kind fills its own -/
structure Draft where
  host : String
  name : String
  source : String
  old : Lifecycle
  new : Lifecycle
  reason : String
  timestamp : Timestamp
  deriving Inhabited

/-- a string, called `expected` when something else is found -/
def textOf (expected : String) : Json → Except Error String
  | .str s => .ok s
  | v => .error (.invalidType (Json.found v) expected)

/-- a state by its name; the name may also be the only member of an object, without contents -/
def lifecycleOf : Json → Except Error Lifecycle
  | .str s => Json.lookup Lifecycle.named s
  | .obj [(s, v)] => do
    let state ← Json.lookup Lifecycle.named s
    match v with
    | .null | .obj [] => .ok state
    | v => .error (.invalidType (Json.found v) "unit")
  | .obj _ => .error (.invalidValue .map "map with a single key")
  | v => .error (.invalidType (Json.found v) "string or map")

def timestampOf (v : Json) : Except Error Timestamp := do
  let s ← textOf "an RFC 3339 formatted date and time string" v
  match Timestamp.parse s with
  | .ok t => .ok t
  | .error fault => .error (.custom fault.message)

abbrev DraftField := String × (Json → Draft → Except Error Draft)

def textField (name : String) (set : String → Draft → Draft) : DraftField :=
  (name, fun v d => do let s ← textOf "a string" v; .ok (set s d))

def stateField (name : String) (set : Lifecycle → Draft → Draft) : DraftField :=
  (name, fun v d => do let s ← lifecycleOf v; .ok (set s d))

def hostField : DraftField := textField "host" fun s d => { d with host := s }

def timestampField : DraftField :=
  ("timestamp", fun v d => do let t ← timestampOf v; .ok { d with timestamp := t })

/-- the fields of a kind, in order -/
def fieldsOf : Kind → List DraftField
  | .serviceStateChanged =>
    [hostField, textField "service_name" fun s d => { d with name := s },
      textField "source" fun s d => { d with source := s },
      stateField "old_state" fun s d => { d with old := s },
      stateField "new_state" fun s d => { d with new := s }, timestampField]
  | .hostUnreachable => [hostField, textField "reason" fun s d => { d with reason := s }, timestampField]
  | .hostRecovered => [hostField, timestampField]

def ofDraft (k : Kind) (d : Draft) : Event :=
  match k with
  | .serviceStateChanged => ⟨.service d.host d.name d.source d.old d.new, d.timestamp⟩
  | .hostUnreachable => ⟨.unreachable d.host d.reason, d.timestamp⟩
  | .hostRecovered => ⟨.recovered d.host, d.timestamp⟩

/-- the fields from members, each at most once -/
def ofMembers (fields : List DraftField) : List (String × Json) → List String → Draft → Except Error Draft
  | [], seen, d =>
    match fields.find? (fun f => !seen.contains f.1) with
    | some f => .error (.missingField f.1)
    | none => .ok d
  | (name, v) :: ms, seen, d =>
    match fields.find? (fun f => f.1 == name) with
    | none => ofMembers fields ms seen d
    | some f =>
      if seen.contains name then .error (.duplicateField name)
      else do
        let d ← f.2 v d
        ofMembers fields ms (name :: seen) d

/-- the fields from items, one for each in order; `size` is what is expected, `total` how many fields there are -/
def ofItems (size : String) (total : Nat) : List DraftField → List Json → Nat → Draft → Except Error Draft
  | [], [], _, d => .ok d
  | [], rest, i, _ => .error (.invalidLength (i + rest.length) (toString total ++ " elements in sequence"))
  | _ :: _, [], i, _ => .error (.invalidLength i size)
  | f :: fs, v :: vs, i, d => do
    let d ← f.2 v d
    ofItems size total fs vs (i + 1) d

/-! ## Reading the text -/

def kindReader : Reader Kind := fun depth bs => do
  let (name, bs) ← Json.text "variant identifier" depth bs
  let k ← Json.lookup Kind.named name
  .ok (k, bs)

/-- one member of the object: the kind, or a value that is kept -/
def readMember (depth : Nat) (s : Option Kind × List (String × Json)) (name : String) (bs : Bytes) :
    Except Error ((Option Kind × List (String × Json)) × Bytes) :=
  if name = "kind" then
    if s.1.isSome then .error (.duplicateField name)
    else do
      let bs ← Json.colon bs
      let (k, bs) ← kindReader depth bs
      .ok ((some k, s.2), bs)
  else do
    let bs ← Json.colon bs
    let (v, bs) ← Json.value depth bs
    .ok ((s.1, (name, v) :: s.2), bs)

def reader : Reader Event := fun depth bs =>
  match Json.skipBlank bs with
  | [] => .error .eofValue
  | b :: r =>
    if b = 0x7B then
      if depth ≤ 1 then .error .recursionLimit
      else do
        let ((k, ms), r) ← Json.foldMembers (readMember (depth - 1)) (r.length + 1) true (none, []) r
        match k with
        | none => .error (.missingField "kind")
        | some k => do
          let r ← Json.endObject r
          let d ← ofMembers (fieldsOf k) ms.reverse [] default
          .ok (ofDraft k d, r)
    else if b = 0x5B then
      if depth ≤ 1 then .error .recursionLimit
      else do
        let (more, r) ← Json.nextItem true r
        if !more then .error (.missingField "kind")
        else do
          let (k, r) ← kindReader (depth - 1) r
          let (vs, r) ← Json.foldItems
            (fun acc r => do let (v, r) ← Json.value (depth - 1) r; .ok (v :: acc, r)) (r.length + 1) false [] r
          let r ← Json.endArray r
          let fields := fieldsOf k
          let d ← ofItems (Json.withElements k.described fields.length) fields.length fields vs.reverse 0 default
          .ok (ofDraft k d, r)
    else .error (Json.mismatch "internally tagged enum Event" (b :: r))

def ofBytes (bs : Bytes) : Except Error Event := Json.decode reader bs

end Event

end ServiceMonitor
