import ServiceMonitor.Http.Message

/-!
Who may ask: whoever presents the token.

A token is presented in the `Authorization` header, behind the word `Bearer`, or, where there is no such header, as the
first `token` of the query that is not empty. It is compared as it stands, without decoding.
-/

namespace ServiceMonitor.Api

open Http (Bytes Request)

inductive AuthError where
  | missing
  | malformed
  | wrong
  deriving DecidableEq, Repr

namespace AuthError

def message : AuthError → String
  | .missing => "missing credentials"
  | .malformed => "invalid Authorization format (expected: Bearer <token>)"
  | .wrong => "invalid token"

def status : AuthError → Nat
  | .missing | .malformed => 401
  | .wrong => 403

end AuthError

/-- what stands in front of the token in the header -/
def bearer : Bytes := Utf8.ofString "Bearer "

def tokenPiece : Bytes := Utf8.ofString "token="

def behind? (start bs : Bytes) : Option Bytes := if start.isPrefixOf bs then some (bs.drop start.length) else none

def headerToken (value : Bytes) : Except AuthError Bytes :=
  match if Http.isReadable value then behind? bearer value else none with
  | some token => .ok token
  | none => .error .malformed

def pieces (query : Bytes) : List Bytes := query.splitOn 0x26

/-- the token of a piece; an empty one is none -/
def pieceToken (piece : Bytes) : Option Bytes :=
  match behind? tokenPiece piece with
  | some (b :: bs) => some (b :: bs)
  | _ => none

/-- the first token of a query -/
def queryToken (query : Bytes) : Option Bytes := (pieces query).findSome? pieceToken

def presented (r : Request) : Except AuthError Bytes :=
  match r.header? "authorization" with
  | some value => headerToken value
  | none =>
    match r.target.query.bind queryToken with
    | some token => .ok token
    | none => .error .missing

/-- whether a request may pass where a token is required -/
def authorize (token : String) (r : Request) : Except AuthError Unit := do
  let p ← presented r
  if p = Utf8.ofString token then .ok () else .error .wrong

end ServiceMonitor.Api
