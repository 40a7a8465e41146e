import ServiceMonitor.Text.Utf8

/-!
The target of a request: a path with a query, an absolute address, an authority alone, or an asterisk.

Only the path and the query are kept; a fragment is cut off. Bytes beyond ASCII are let through where they are
well-formed UTF-8.
-/

namespace ServiceMonitor.Http

abbrev Bytes := List UInt8

inductive UriError where
  | empty
  | tooLong
  | invalidCharacter
  | invalidAuthority
  | invalidFormat
  | schemeTooLong
  deriving DecidableEq, Repr

def UriError.message : UriError → String
  | .empty => "empty string"
  | .tooLong => "uri too long"
  | .invalidCharacter => "invalid uri character"
  | .invalidAuthority => "invalid authority"
  | .invalidFormat => "invalid format"
  | .schemeTooLong => "scheme too long"

structure Target where
  path : Bytes
  query : Option Bytes
  deriving DecidableEq, Repr

def slash : UInt8 := 0x2F
def question : UInt8 := 0x3F
def hash : UInt8 := 0x23
def colon : UInt8 := 0x3A

def maxTarget : Nat := 65534

def maxScheme : Nat := 64

def isAlnum (b : UInt8) : Bool :=
  (0x30 ≤ b && b ≤ 0x39) || (0x41 ≤ b && b ≤ 0x5A) || (0x61 ≤ b && b ≤ 0x7A)

/-- the byte is one of these ASCII characters -/
def isOneOf (s : String) (b : UInt8) : Bool := s.toList.any fun c => c.toNat = b.toNat

def inPath (b : UInt8) : Bool := isAlnum b || isOneOf "!$%&'()*+,-./:;=@[\\]^_|~\"\x7b\x7d" b || 0x7F ≤ b

def inQuery (b : UInt8) : Bool :=
  isAlnum b || isOneOf "!$%&'()*+,-./:;=?@[\\]^_`\x7b|\x7d~" b || 0x7F ≤ b

def inScheme (b : UInt8) : Bool := isAlnum b || isOneOf "+-.~" b

/-- in an authority, the percent sign apart -/
def inAuthority (b : UInt8) : Bool := isAlnum b || isOneOf "!$&'()*+,-.:;=@[]_~" b

/-! ## Path and query -/

/-- a path and what follows it, up to the fragment -/
def pathAndQuery (bs : Bytes) : Except UriError Target :=
  let path := bs.takeWhile fun b => b != question && b != hash
  let rest := bs.dropWhile fun b => b != question && b != hash
  let query : Option Bytes := match rest with
    | b :: r => if b = question then some (r.takeWhile fun c => c != hash) else none
    | [] => none
  let used := path ++ (query.map fun q => question :: q).getD []
  if !path.all inPath || !(query.getD []).all inQuery then .error .invalidCharacter
  else if used.any (fun b => 0x7F ≤ b) && (Utf8.decode used).isNone then .error .invalidCharacter
  else .ok ⟨path, query⟩

/-! ## Authority -/

/-- what has been seen of an authority -/
structure Seen where
  colons : Nat
  opened : Bool
  closed : Bool
  percent : Bool
  /-- the last byte was an at sign -/
  atSign : Bool

/-- goes through an authority, up to where a path, a query or a fragment begins -/
def authorityLoop : Seen → Bytes → Except UriError (Seen × Bytes)
  | s, [] => .ok (s, [])
  | s, b :: r =>
    if b = slash || b = question || b = hash then .ok (s, b :: r)
    else if b = colon then
      if 8 ≤ s.colons then .error .invalidAuthority
      else authorityLoop { s with colons := s.colons + 1, atSign := false } r
    else if b = 0x5B then
      if s.percent || s.opened then .error .invalidAuthority
      else authorityLoop { s with opened := true, atSign := false } r
    else if b = 0x5D then
      if !s.opened || s.closed then .error .invalidAuthority
      else authorityLoop { s with closed := true, colons := 0, percent := false, atSign := false } r
    else if b = 0x40 then authorityLoop { s with colons := 0, percent := false, atSign := true } r
    else if b = 0x25 then authorityLoop { s with percent := true, atSign := false } r
    else if inAuthority b then authorityLoop { s with atSign := false } r
    else .error .invalidCharacter

def behindAuthority (bs : Bytes) : Except UriError Bytes := do
  let (s, r) ← authorityLoop ⟨0, false, false, false, false⟩ bs
  if s.opened != s.closed || 1 < s.colons || s.atSign || s.percent then .error .invalidAuthority else .ok r

/-! ## Whole targets -/

/-- what is left behind a scheme at the front; none if there is none -/
def behindScheme (bs : Bytes) : Except UriError (Option Bytes) :=
  let scheme := bs.takeWhile inScheme
  match bs.dropWhile inScheme with
  | a :: b :: c :: r =>
    if a = colon && b = slash && c = slash then
      if maxScheme < scheme.length then .error .schemeTooLong else .ok (some r)
    else .ok none
  | _ => .ok none

/-- the target that a text is -/
def Target.ofBytes (bs : Bytes) : Except UriError Target :=
  if maxTarget < bs.length then .error .tooLong
  else
    match bs with
    | [] => .error .empty
    | [b] =>
      if b = slash || b = 0x2A then .ok ⟨[b], none⟩
      else do
        let r ← behindAuthority bs
        if r.isEmpty then .ok ⟨[], none⟩ else .error .invalidCharacter
    | b :: _ =>
      if b = slash then pathAndQuery bs
      else do
        match ← behindScheme bs with
        | none =>
          let r ← behindAuthority bs
          if r.isEmpty then .ok ⟨[], none⟩ else .error .invalidFormat
        | some rest =>
          let r ← behindAuthority rest
          if r.length = rest.length then .error .invalidFormat
          else do
            let t ← pathAndQuery r
            .ok (if t.path.isEmpty then { t with path := [slash] } else t)

end ServiceMonitor.Http
