import ServiceMonitor.Url.Domain.Mapped
import ServiceMonitor.Url.Domain.Marks
import ServiceMonitor.Url.Domain.Refused
import ServiceMonitor.Url.Percent
import ServiceMonitor.Url.Punycode

/-!
Domain names, in any script and with any of the dots in use, and their form in ASCII.

A name is first mapped character by character: capital letters become small, compatibility characters give way to what they
stand for, some vanish, some are refused. Its labels are then either ASCII as they are, or encoded behind a mark. A label
that comes with the mark must stand for one that could not be written without it. Zero-width joiners are admitted behind a
virama only.
-/

namespace ServiceMonitor.Url

/-- ASCII characters that no domain name may hold -/
def isDenied (c : Char) : Bool := c.toNat ≤ 0x20 || c.toNat = 0x7F || isAnyOf "%#/:<>?@[\\]^|" c

def mapped? (c : Char) : Option (List Char) :=
  if c.toNat < 0x80 then some [c.toLower]
  else if isRefused c then none
  else some ((replacement? c).getD [c])

/-- zero-width joiner and non-joiner -/
def isJoiner (c : Char) : Bool := c = '\u200c' || c = '\u200d'

/-- every joiner stands behind a virama; `last` is the character before -/
def joinersHeld : Option Char → List Char → Bool
  | _, [] => true
  | last, c :: cs => (!isJoiner c || last.any isVirama) && joinersHeld (some c) cs

def isSound (label : List Char) : Bool := !label.head?.any isMark && joinersHeld none label

def encodedMark : List Char := ['x', 'n', '-', '-']

def isAscii (cs : List Char) : Bool := cs.all (·.toNat < 0x80)

/-- the text behind the mark stands for a label that needs it -/
def isEncoded (cs : List Char) : Bool :=
  match Punycode.decode cs with
  | some label => !isAscii label && label.all (fun c => mapped? c = some [c] && !isDenied c) && isSound label
  | none => false

def asciiLabel? (label : List Char) : Option (List Char) :=
  if encodedMark.isPrefixOf label then
    if isAscii label && isEncoded (label.drop encodedMark.length) then some label else none
  else if isAscii label then some label
  else if isSound label then some (encodedMark ++ Punycode.encode label)
  else none

def asciiName? (name : List Char) : Option (List Char) := do
  let mapped := (← name.mapM mapped?).flatten
  if mapped.any isDenied then none
  else
    let labels ← (mapped.splitOn '.').mapM asciiLabel?
    some (List.intercalate ['.'] labels)

end ServiceMonitor.Url
