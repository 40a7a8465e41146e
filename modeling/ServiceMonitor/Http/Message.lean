import ServiceMonitor.Http.Uri

/-!
Requests and responses.

Names of headers are kept in lower case; a name may come more than once, and then the first one counts.
-/

namespace ServiceMonitor.Http

/-- why a request is refused before it is looked at -/
inductive RequestError where
  | method
  | target (e : UriError)
  | headerName
  | headerValue
  deriving DecidableEq, Repr

def RequestError.message : RequestError → String
  | .method => "invalid HTTP method"
  | .target e => e.message
  | .headerName => "invalid HTTP header name"
  | .headerValue => "failed to parse header value"

/-- a header: its name in lower case, and its value -/
structure Header where
  name : String
  value : Bytes
  deriving DecidableEq, Repr

structure Request where
  method : String
  target : Target
  headers : List Header
  deriving DecidableEq, Repr

def isTokenChar (c : Char) : Bool := c.isAlphanum || "!#$%&'*+-.^_`|~".toList.contains c

def isToken (s : String) : Bool := !s.isEmpty && s.toList.all isTokenChar

/-- bytes that a value may hold: all but control characters, the tab excepted -/
def inValue (b : UInt8) : Bool := (0x20 ≤ b && b != 0x7F) || b = 0x09

def Header.make (name : String) (value : Bytes) : Except RequestError Header :=
  if !isToken name then .error .headerName
  else if !value.all inValue then .error .headerValue
  else .ok ⟨String.ofList (name.toList.map Char.toLower), value⟩

def Request.make (method : String) (target : Bytes) (headers : List (String × Bytes)) :
    Except RequestError Request := do
  if !isToken method then .error .method
  else do
    let t ← (Target.ofBytes target).mapError .target
    let hs ← headers.mapM fun h => Header.make h.1 h.2
    .ok ⟨method, t, hs⟩

def Request.header? (r : Request) (name : String) : Option Bytes :=
  (r.headers.find? fun h => h.name = name).map (·.value)

/-- visible ASCII and tabs only -/
def isReadable (bs : Bytes) : Bool := bs.all fun b => (0x20 ≤ b && b < 0x7F) || b = 0x09

def loweredByte (b : UInt8) : UInt8 := if 0x41 ≤ b && b ≤ 0x5A then b + 0x20 else b

def containsText (needle : Bytes) : Bytes → Bool
  | [] => needle.isEmpty
  | b :: bs => needle.isPrefixOf (b :: bs) || containsText needle bs

/-! ## Responses -/

structure Response where
  status : Nat
  headers : List (String × String)
  body : String
  deriving DecidableEq, Repr

def Response.bare (status : Nat) : Response := ⟨status, [], ""⟩

def Response.plain (status : Nat) (text : String) : Response :=
  ⟨status, [("content-type", "text/plain; charset=utf-8")], text⟩

def Response.with (r : Response) (name value : String) : Response := { r with headers := r.headers ++ [(name, value)] }

/-- adds the length of the body; only then is the body left out where it is not wanted -/
def Response.sized (r : Response) (withBody : Bool) : Response :=
  let r := r.with "content-length" (toString r.body.utf8ByteSize)
  if withBody then r else { r with body := "" }

end ServiceMonitor.Http
