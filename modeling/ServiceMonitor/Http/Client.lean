import ServiceMonitor.Http.Message
import ServiceMonitor.Url.Reading

/-!
Asking others: the request that goes out, the reply that comes back, and what can go wrong between.

A request is put together before anything is sent, and is refused there if its address has no host, if a header cannot be
written, or if the scheme is not the web's. User and password of an address go into the request and not into the
address that is shown. A reply is its status and the pieces of its body as they arrive; a failure ends the body. What lies between
is a network: any function from requests to replies.
-/

namespace ServiceMonitor.Http

/-! ## Failures -/

/-- why an exchange came to nothing -/
inductive Failure where
  /-- the request cannot be put together -/
  | building (address : Option String)
  /-- nothing came back, because the time was up or otherwise -/
  | sending (address : String) (late : Bool)
  | redirecting (address : String)
  /-- the body broke off, came late, or is not what it should be -/
  | decoding (late : Bool)
  deriving DecidableEq, Repr

namespace Failure

def about (what address : String) : String := what ++ " for url (" ++ address ++ ")"

def message : Failure → String
  | .building none => "builder error"
  | .building (some address) => Failure.about "builder error" address
  | .sending address _ => Failure.about "error sending request" address
  | .redirecting address => Failure.about "error following redirect" address
  | .decoding _ => "error decoding response body"

def isLate : Failure → Bool
  | .sending _ late | .decoding late => late
  | _ => false

def isDecoding : Failure → Bool
  | .decoding _ => true
  | _ => false

end Failure

/-! ## Requests and replies -/

structure Outgoing where
  method : String
  url : Url
  headers : List Header
  body : Bytes
  deriving DecidableEq, Repr

/-- a reply, its body in the pieces in which it arrives -/
structure Reply where
  status : Nat
  body : List (Except Failure Bytes)

def isSuccess (status : Nat) : Bool := 200 ≤ status && status < 300

def Reply.wholeBody (r : Reply) : Except Failure Bytes := (r.body.mapM id).map List.flatten

/-- whatever answers requests -/
abbrev Network := Outgoing → Except Failure Reply

/-- the network that reaches nobody -/
def unreachable : Network := fun o => .error (.sending o.url.text false)

/-! ## Putting a request together -/

/-- an escaped text as it was meant; none if that is no text -/
def plain? (cs : List Char) : Option (List Char) := Utf8.decode (Url.unescape (Utf8.encode cs))

/-- an address without the user and password that a request carries in their place -/
def withoutCredentials (u : Url) : Url :=
  match plain? u.user with
  | none => u
  | some user =>
    if user.isEmpty && (u.password.isEmpty || (plain? u.password).isNone) then u
    else { u with user := [], password := [] }

/-- the web's schemes, in an address that can stand in a request -/
def isSendable (u : Url) : Bool :=
  (String.ofList u.scheme = "http" || String.ofList u.scheme = "https")
    && (match Target.ofBytes (Utf8.ofString u.text) with
      | .ok _ => true
      | .error _ => false)

def prepare (method address : String) (headers : List (String × Bytes)) (body : Bytes) : Except Failure Outgoing :=
  match Url.ofText address with
  | .error _ => .error (.building none)
  | .ok u =>
    if !u.hasHost then .error (.building (some u.text))
    else
      match headers.mapM fun h => Header.make h.1 h.2 with
      | .error _ => .error (.building none)
      | .ok hs =>
        let u := withoutCredentials u
        if isSendable u then .ok ⟨method, u, hs, body⟩ else .error (.building (some u.text))

end ServiceMonitor.Http
