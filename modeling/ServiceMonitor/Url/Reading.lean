import ServiceMonitor.Url.Host
import ServiceMonitor.Url.Path

/-!
Addresses of resources: how they are read and written.

An address is a scheme and, behind a colon, what the scheme makes of the rest: host, port and path, the path of a file, or a
text. Query and fragment follow. Reading is generous: blanks around the text do not count, neither do line ends inside, and in
schemes with hosts any number of slashes or backslashes may follow the colon. Nothing is read relative to something else.

`Url.ofText` reads, `Url.text` writes.
-/

namespace ServiceMonitor

structure Url where
  scheme : List Char
  /-- empty if there is none -/
  user : List Char
  /-- empty if there is none -/
  password : List Char
  /-- none if nothing in the address stands for a host; the name of a host may be empty -/
  host : Option Url.Host
  /-- none for the scheme's own port -/
  port : Option Nat
  path : Url.Path
  query : Option (List Char)
  fragment : Option (List Char)
  deriving DecidableEq, Repr

namespace Url

/-! ## Writing -/

def credentials (u : Url) : List Char :=
  if u.user.isEmpty && u.password.isEmpty then []
  else u.user ++ (if u.password.isEmpty then [] else ':' :: u.password) ++ ['@']

def portText : Option Nat → List Char
  | some p => ':' :: (toString p).toList
  | none => []

/-- host and port behind two slashes; a path that looks like a host is set off -/
def authority (u : Url) : List Char :=
  match u.host with
  | some h => '/' :: '/' :: u.credentials ++ h.text ++ portText u.port
  | none => if ['/', '/'].isPrefixOf u.path.text then ['/', '.'] else []

def tail (u : Url) : List Char :=
  (u.query.map fun q => '?' :: q).getD [] ++ (u.fragment.map fun f => '#' :: f).getD []

def text (u : Url) : String := String.ofList (u.scheme ++ ':' :: u.authority ++ u.path.text ++ u.tail)

/-- there is a host to talk to -/
def hasHost (u : Url) : Bool :=
  match u.host with
  | some h => h ≠ .name []
  | none => false

/-! ## Schemes -/

/-- schemes with hosts and their ports -/
def ports : List (String × Nat) := [("http", 80), ("https", 443), ("ws", 80), ("wss", 443), ("ftp", 21)]

def standardPort? (scheme : List Char) : Option Nat := ports.lookup (String.ofList scheme)

def isFile (scheme : List Char) : Bool := String.ofList scheme = "file"

/-- schemes in which a backslash is a slash -/
def isSpecial (scheme : List Char) : Bool := (standardPort? scheme).isSome || isFile scheme

def inScheme (c : Char) : Bool := c.isAlphanum || c = '+' || c = '-' || c = '.'

def scheme? : List Char → Option (List Char × List Char)
  | [] => none
  | c :: cs =>
    if c.isAlpha then
      match cs.dropWhile inScheme with
      | ':' :: rest => some ((c :: cs.takeWhile inScheme).map Char.toLower, rest)
      | _ => none
    else none

/-! ## Query and fragment -/

def beginsTail (c : Char) : Bool := c = '?' || c = '#'

/-- what a text beginning with a question mark or a hash holds -/
def tailOf (special : Bool) : List Char → Option (List Char) × Option (List Char)
  | '?' :: cs =>
    let set := if special then escapedInSpecialQuery else escapedInQuery
    (some (escape set (cs.takeWhile (· ≠ '#'))),
      match cs.dropWhile (· ≠ '#') with
      | _ :: f => some (escape escapedInFragment f)
      | [] => none)
  | '#' :: cs => (none, some (escape escapedInFragment cs))
  | _ => (none, none)

/-- an address without credentials and port, from what follows the host -/
def behindHost (scheme : List Char) (host : Option Host) (path : List Char → Path) (cs : List Char) : Url :=
  let (query, fragment) := tailOf (isSpecial scheme) (cs.dropWhile fun c => !beginsTail c)
  { scheme, user := [], password := [], host, port := none, path := path (cs.takeWhile fun c => !beginsTail c),
    query, fragment }

/-! ## Host and port -/

/-- where user, host and port end -/
def endsAuthority (scheme : List Char) (c : Char) : Bool := c = '/' || beginsTail c || (isSpecial scheme && c = '\\')

def credentialsOf (cs : List Char) : List Char × List Char :=
  (escape escapedInUser (cs.takeWhile (· ≠ ':')), escape escapedInUser ((cs.dropWhile (· ≠ ':')).drop 1))

/-- user and password in front of the last at sign, and what follows it; nothing but the sign needs a host behind it -/
def splitCredentials (scheme cs : List Char) : Except Error ((List Char × List Char) × List Char) :=
  let area := cs.takeWhile fun c => !endsAuthority scheme c
  let rest := cs.drop area.length
  if area.contains '@' then
    let behind := (area.reverse.takeWhile (· ≠ '@')).reverse
    let front := area.take (area.length - behind.length - 1)
    if front.isEmpty && behind.isEmpty && !rest.isEmpty then .error .emptyHost
    else .ok (credentialsOf front, behind ++ rest)
  else .ok (([], []), cs)

/-- the text of the host at the front: up to a colon outside brackets -/
def hostText (scheme : List Char) : Bool → List Char → List Char
  | _, [] => []
  | inside, c :: cs =>
    if (c = ':' && !inside) || endsAuthority scheme c then []
    else c :: hostText scheme (if c = '[' then true else if c = ']' then false else inside) cs

def splitHost (scheme cs : List Char) : Except Error (Host × List Char) :=
  let host := hostText scheme false cs
  let rest := cs.drop host.length
  if host.isEmpty && (isSpecial scheme || rest.head? = some ':') then .error .emptyHost
  else (if isSpecial scheme then Host.ofText host else Host.ofPlainText host).map fun h => (h, rest)

/-- the port behind a colon, and what follows it -/
def splitPort (scheme : List Char) : List Char → Except Error (Option Nat × List Char)
  | ':' :: cs =>
    let digits := cs.takeWhile Char.isDigit
    let rest := cs.dropWhile Char.isDigit
    let value := digits.foldl (fun n c => n * 10 + (c.toNat - 48)) 0
    if 65535 < value || rest.head?.any (fun c => !(c = '/' || c = '\\' || beginsTail c)) then .error .invalidPort
    else .ok (if digits.isEmpty || standardPort? scheme = some value then none else some value, rest)
  | cs => .ok (none, cs)

def pathBehindHost (scheme : List Char) (cs : List Char) : Path :=
  match cs with
  | [] => if isSpecial scheme then .segments [[]] else .segments []
  | c :: rest => Path.ofText (isSpecial scheme) false (if c = '/' || (isSpecial scheme && c = '\\') then rest else cs)

def withHost (scheme cs : List Char) : Except Error Url := do
  let ((user, password), cs) ← splitCredentials scheme cs
  let (host, cs) ← splitHost scheme cs
  let (port, cs) ← splitPort scheme cs
  if host = .name [] && !(user.isEmpty && password.isEmpty) then .error .emptyHost
  else .ok { behindHost scheme (some host) (pathBehindHost scheme) cs with user, password, port }

/-! ## Files -/

def isSlash (c : Char) : Bool := c = '/' || c = '\\'

/-- the path of a file, with or without a slash in front -/
def filePath : List Char → Path
  | c :: cs => Path.ofText true true (if isSlash c then cs else c :: cs)
  | [] => Path.ofText true true []

/-- a path that begins with a drive has no host -/
def startsAtDrive : Path → Bool
  | .segments (s :: _) => Path.isDrive s
  | _ => false

def ofFile (scheme : List Char) : List Char → Except Error Url
  | a :: b :: cs =>
    if isSlash a && isSlash b then
      let area := cs.takeWhile fun c => !endsAuthority scheme c
      let rest := cs.drop area.length
      if area.isEmpty || Path.isDrive area then .ok (behindHost scheme (some (.name [])) filePath cs)
      else do
        let host ← Host.ofText area
        let u := behindHost scheme (some (if host = .name "localhost".toList then .name [] else host)) filePath rest
        .ok (if startsAtDrive u.path then { u with host := some (.name []) } else u)
    else .ok (behindHost scheme (some (.name [])) filePath (a :: b :: cs))
  | cs => .ok (behindHost scheme (some (.name [])) filePath cs)

/-! ## Whole addresses -/

/-- blanks and control characters -/
def isAround (c : Char) : Bool := c.toNat ≤ 0x20

/-- a text without blanks around it and without line ends and tabs -/
def tidy (cs : List Char) : List Char :=
  (((cs.dropWhile isAround).reverse.dropWhile isAround).reverse).filter fun c => !isAnyOf "\t\n\r" c

def behindScheme (scheme cs : List Char) : Except Error Url :=
  if isFile scheme then ofFile scheme cs
  else if isSpecial scheme then withHost scheme (cs.dropWhile isSlash)
  else
    match cs with
    | '/' :: '/' :: rest => withHost scheme rest
    | '/' :: rest => .ok (behindHost scheme none (Path.ofText false false) rest)
    | cs => .ok (behindHost scheme none (fun p => .plain (escape escapedAlways p)) cs)

def ofText (s : String) : Except Error Url :=
  match scheme? (tidy s.toList) with
  | some (scheme, rest) => behindScheme scheme rest
  | none => .error .relative

end Url

end ServiceMonitor
