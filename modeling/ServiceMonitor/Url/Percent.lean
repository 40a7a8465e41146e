import ServiceMonitor.Text.Utf8

/-!
Percent-encoding.

A byte is written as a percent sign and two hexadecimal digits. Each part of an address has its own set of characters that
are written this way; control characters and all beyond ASCII are in every set.
-/

namespace ServiceMonitor.Url

/-! ## Sets -/

/-- the character is one of these -/
def isAnyOf (s : String) (c : Char) : Bool := s.toList.contains c

/-- control characters and those beyond ASCII -/
def escapedAlways (c : Char) : Bool := c.toNat < 0x20 || 0x7E < c.toNat

def escapedInFragment (c : Char) : Bool := escapedAlways c || isAnyOf " \"<>`" c

def escapedInQuery (c : Char) : Bool := escapedAlways c || isAnyOf " \"#<>" c

def escapedInSpecialQuery (c : Char) : Bool := escapedInQuery c || c = '\''

def escapedInPath (c : Char) : Bool := escapedInFragment c || isAnyOf "#?\x7b\x7d" c

def escapedInUser (c : Char) : Bool := escapedInPath c || isAnyOf "/:;=@[\\]^|" c

/-! ## Writing and reading -/

def hexDigit (n : Nat) : Char := Char.ofNat (if n < 10 then 48 + n else 55 + n)

def escapeByte (b : UInt8) : List Char := ['%', hexDigit (b.toNat / 16), hexDigit (b.toNat % 16)]

def escape (set : Char → Bool) (cs : List Char) : List Char :=
  cs.flatMap fun c => if set c then (Utf8.encodeChar c).flatMap escapeByte else [c]

def hexValue? (b : UInt8) : Option Nat :=
  let n := b.toNat
  if 48 ≤ n && n ≤ 57 then some (n - 48)
  else if 65 ≤ n && n ≤ 70 then some (n - 55)
  else if 97 ≤ n && n ≤ 102 then some (n - 87)
  else none

def escaped? (high low : UInt8) : Option UInt8 := do
  let h ← hexValue? high
  let l ← hexValue? low
  some (h * 16 + l).toUInt8

/-- bytes with their escapes resolved; a percent sign without two digits stands for itself -/
def unescape : List UInt8 → List UInt8
  | [] => []
  | b :: h :: l :: r =>
    match if b = 0x25 then escaped? h l else none with
    | some x => x :: unescape r
    | none => b :: unescape (h :: l :: r)
  | b :: r => b :: unescape r

end ServiceMonitor.Url
