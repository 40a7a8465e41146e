/-!
Internet addresses and their text.

Version 4 is four octets in decimal without leading zeros. Version 6 is eight groups in hexadecimal; the longest run of
zero groups may be written as two colons, the last two groups as a version 4 address. A socket address is an address
and a port, with brackets around version 6 and an optional scope inside them.
-/

namespace ServiceMonitor.Net

/-- an address: four octets, or eight groups of sixteen bits -/
inductive Ip where
  | v4 (octets : List Nat)
  | v6 (groups : List Nat)
  deriving DecidableEq, Repr

/-- an address and a port; a version 6 address may have a scope -/
structure Endpoint where
  ip : Ip
  port : Nat
  scope : Nat
  deriving DecidableEq, Repr

/-! ## Writing -/

def octetsText (octets : List Nat) : String := String.intercalate "." (octets.map toString)

def groupsText (groups : List Nat) : String :=
  String.intercalate ":" (groups.map fun g => String.ofList (Nat.toDigits 16 g))

def leadingZeros (groups : List Nat) : Nat := (groups.takeWhile (· = 0)).length

/-- start and length of the first longest run of zero groups, searched from index `i` on -/
def longestRun : Nat → List Nat → Nat × Nat
  | _, [] => (0, 0)
  | i, g :: gs =>
    let here := leadingZeros (g :: gs)
    let later := longestRun (i + 1) gs
    if here = 0 || here < later.2 then later else (i, here)

/-- two or more zero groups are left out, once -/
def compressed (groups : List Nat) : String :=
  let (start, len) := longestRun 0 groups
  if 2 ≤ len then groupsText (groups.take start) ++ "::" ++ groupsText (groups.drop (start + len))
  else groupsText groups

/-- the octets of a version 4 address in the last two groups -/
def embedded (high low : Nat) : List Nat := [high / 256, high % 256, low / 256, low % 256]

def Ip.text : Ip → String
  | .v4 octets => octetsText octets
  | .v6 [0, 0, 0, 0, 0, 0xffff, high, low] => "::ffff:" ++ octetsText (embedded high low)
  | .v6 groups => compressed groups

def Endpoint.text (e : Endpoint) : String :=
  match e.ip with
  | .v4 _ => e.ip.text ++ ":" ++ toString e.port
  | .v6 _ =>
    let scope := if e.scope = 0 then "" else "%" ++ toString e.scope
    "[" ++ e.ip.text ++ scope ++ "]:" ++ toString e.port

/-! ## Reading -/

/-- the value of a digit in bases up to sixteen -/
def digitValue? (radix : Nat) (c : Char) : Option Nat :=
  let n := c.toNat
  let v? :=
    if 48 ≤ n && n ≤ 57 then some (n - 48)
    else if 97 ≤ n && n ≤ 102 then some (n - 87)
    else if 65 ≤ n && n ≤ 70 then some (n - 55)
    else none
  v?.bind fun v => if v < radix then some v else none

/-- a number below `bound` at the front, of at most `width` digits if that is given; `zeros` admits leading zeros -/
def number? (radix bound : Nat) (width : Option Nat) (zeros : Bool) (cs : List Char) : Option (Nat × List Char) :=
  let digits := cs.takeWhile fun c => (digitValue? radix c).isSome
  let value := digits.foldl (fun n c => n * radix + (digitValue? radix c).getD 0) 0
  let leadingZero := digits.head? = some '0' && 1 < digits.length
  let tooWide := match width with
    | some w => w < digits.length
    | none => false
  if digits.isEmpty || tooWide || bound ≤ value || (!zeros && leadingZero) then none
  else some (value, cs.dropWhile fun c => (digitValue? radix c).isSome)

def behind? (c : Char) : List Char → Option (List Char)
  | d :: r => if d = c then some r else none
  | [] => none

def octet? (cs : List Char) : Option (Nat × List Char) := number? 10 256 (some 3) false cs

def octets? (cs : List Char) : Option (List Nat × List Char) := do
  let (a, r) ← octet? cs
  let (b, r) ← octet? (← behind? '.' r)
  let (c, r) ← octet? (← behind? '.' r)
  let (d, r) ← octet? (← behind? '.' r)
  some ([a, b, c, d], r)

/-- up to `limit` groups at the front, and whether they end with a version 4 address; each but the first stands behind a
colon -/
def groups : Nat → Bool → List Char → List Nat × Bool × List Char
  | 0, _, cs => ([], false, cs)
  | limit + 1, first, cs =>
    let inner := if first then some cs else behind? ':' cs
    match (if 0 < limit then inner.bind octets? else none) with
    | some ([a, b, c, d], r) => ([a * 256 + b, c * 256 + d], true, r)
    | _ =>
      match inner.bind (number? 16 65536 (some 4) true) with
      | some (g, r) =>
        let (gs, v4, r) := groups limit false r
        (g :: gs, v4, r)
      | none => ([], false, cs)

/-- a version 6 address at the front -/
def v6? (cs : List Char) : Option (List Nat × List Char) :=
  let (head, v4, r) := groups 8 true cs
  if head.length = 8 then some (head, r)
  else if v4 then none
  else do
    let r ← behind? ':' r
    let r ← behind? ':' r
    let (tail, _, r) := groups (7 - head.length) true r
    some (head ++ List.replicate (8 - head.length - tail.length) 0 ++ tail, r)

def Ip.ofText? (s : String) : Option Ip :=
  match octets? s.toList with
  | some (octets, []) => some (.v4 octets)
  | _ =>
    match v6? s.toList with
    | some (gs, []) => some (.v6 gs)
    | _ => none

def port? (cs : List Char) : Option Nat := do
  let r ← behind? ':' cs
  let (port, r) ← number? 10 65536 none true r
  if r.isEmpty then some port else none

def Endpoint.ofText? (s : String) : Option Endpoint :=
  let v4 : Option Endpoint := do
    let (octets, r) ← octets? s.toList
    let port ← port? r
    some ⟨.v4 octets, port, 0⟩
  let v6 : Option Endpoint := do
    let r ← behind? '[' s.toList
    let (gs, r) ← v6? r
    let (scope, r) ← match r with
      | '%' :: r => number? 10 (Nat.pow 2 32) none true r
      | r => some (0, r)
    let port ← port? (← behind? ']' r)
    some ⟨.v6 gs, port, scope⟩
  v4 <|> v6

end ServiceMonitor.Net
