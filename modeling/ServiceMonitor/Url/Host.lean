import ServiceMonitor.Net.Address
import ServiceMonitor.Url.Domain

/-!
The host of an address: a domain name or an internet address.

Under the schemes that have hosts of their own a name ending in a number must be a version 4 address, which may be written with
fewer parts and in other bases. Under the other schemes a host is any text without separators.
-/

namespace ServiceMonitor.Url

inductive Error where
  | relative
  | emptyHost
  | invalidPort
  | invalidV4
  | invalidV6
  | invalidName
  | invalidCharacter
  deriving DecidableEq, Repr

def Error.message : Error → String
  | .relative => "relative URL without a base"
  | .emptyHost => "empty host"
  | .invalidPort => "invalid port number"
  | .invalidV4 => "invalid IPv4 address"
  | .invalidV6 => "invalid IPv6 address"
  | .invalidName => "invalid international domain name"
  | .invalidCharacter => "invalid domain character"

inductive Host where
  | name (text : List Char)
  | address (ip : Net.Ip)
  deriving DecidableEq, Repr

namespace Host

def text : Host → List Char
  | .name cs => cs
  | .address (.v4 octets) => (Net.octetsText octets).toList
  | .address (.v6 groups) => '[' :: (Net.compressed groups).toList ++ [']']

/-! ## Version 4 -/

/-- a number in a base; no digits are zero -/
def digits? (radix : Nat) (cs : List Char) : Option Nat :=
  cs.foldlM (fun n c => (Net.digitValue? radix c).map (n * radix + ·)) 0

/-- the number that a part is: hexadecimal behind `0x`, octal behind another zero, else decimal -/
def part? : List Char → Option Nat
  | [] => none
  | '0' :: 'x' :: cs => digits? 16 cs
  | '0' :: 'X' :: cs => digits? 16 cs
  | '0' :: c :: cs => digits? 8 (c :: cs)
  | cs => digits? 10 cs

/-- the parts of a name; an empty one at the end does not count -/
def parts (name : List Char) : List (List Char) :=
  let ps := name.splitOn '.'
  if ps.getLast? = some [] then ps.dropLast else ps

/-- the last part is a number, or is meant to be one -/
def endsInNumber (name : List Char) : Bool :=
  match (parts name).getLast? with
  | some p => (!p.isEmpty && p.all Char.isDigit) || (part? p).isSome
  | none => false

/-- the octets of a version 4 address; the last part fills what the others leave -/
def octets? (name : List Char) : Option (List Nat) := do
  let numbers ← (parts name).mapM part?
  let last ← numbers.getLast?
  let front := numbers.dropLast
  let width := 4 - front.length
  if 4 < numbers.length || front.any (255 < ·) || Nat.pow 256 width ≤ last then none
  else some (front ++ (List.range width).map fun i => last / Nat.pow 256 (width - 1 - i) % 256)

/-! ## Reading -/

def bracketed (cs : List Char) : Except Error Host :=
  if cs.getLast? = some ']' then
    match Net.v6? cs.dropLast with
    | some (groups, []) => .ok (.address (.v6 groups))
    | _ => .error .invalidV6
  else .error .invalidV6

/-- the host of a scheme that has hosts of its own -/
def ofText : List Char → Except Error Host
  | '[' :: cs => bracketed cs
  | cs =>
    match (Utf8.decode (unescape (Utf8.encode cs))).bind asciiName? with
    | none => .error .invalidName
    | some domain =>
      if domain.isEmpty then .error .emptyHost
      else if endsInNumber domain then
        match octets? domain with
        | some octets => .ok (.address (.v4 octets))
        | none => .error .invalidV4
      else .ok (.name domain)

/-- separators, which no host may hold -/
def isSeparator (c : Char) : Bool := c = '\x00' || isAnyOf "\t\n\r #/:<>?@[\\]^|" c

/-- the host of any other scheme -/
def ofPlainText : List Char → Except Error Host
  | '[' :: cs => bracketed cs
  | cs => if cs.any isSeparator then .error .invalidCharacter else .ok (.name (escape escapedAlways cs))

end Host

end ServiceMonitor.Url
