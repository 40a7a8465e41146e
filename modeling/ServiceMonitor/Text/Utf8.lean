/-!
UTF-8 over lists of bytes.

`encode` writes characters as bytes. Reading is a small automaton: `feed` takes one byte and says where the
reader stands afterwards and what the byte completed, either a character or a malformed stretch (`none`).
`read` runs it over a whole text; `decode` accepts a text without malformed stretches, and `decodeLossy` puts
U+FFFD in place of each of them.

A malformed stretch is a maximal start of some well-formed character, or one byte that starts none.
-/

namespace ServiceMonitor.Utf8

/-! ## Writing -/

def encodeChar (c : Char) : List UInt8 :=
  let n := c.toNat
  if n < 0x80 then [n.toUInt8]
  else if n < 0x800 then [(0xC0 + n / 0x40).toUInt8, (0x80 + n % 0x40).toUInt8]
  else if n < 0x10000 then
    [(0xE0 + n / 0x1000).toUInt8, (0x80 + n / 0x40 % 0x40).toUInt8, (0x80 + n % 0x40).toUInt8]
  else
    [(0xF0 + n / 0x40000).toUInt8, (0x80 + n / 0x1000 % 0x40).toUInt8, (0x80 + n / 0x40 % 0x40).toUInt8,
      (0x80 + n % 0x40).toUInt8]

def encode (cs : List Char) : List UInt8 := cs.flatMap encodeChar

/-! ## Reading -/

/-- where the reader stands between two bytes -/
inductive State where
  /-- between characters -/
  | start
  /-- inside one: `need` more bytes, `acc` gathered so far, the next byte between `lo` and `hi` -/
  | inside (need acc lo hi : Nat)
  deriving DecidableEq, Repr

/-- a byte seen between characters -/
def enter (b : UInt8) : State × List (Option Char) :=
  let n := b.toNat
  if n < 0x80 then (.start, [some (Char.ofNat n)])
  else if n < 0xC2 then (.start, [none])
  else if n < 0xE0 then (.inside 1 (n - 0xC0) 0x80 0xBF, [])
  else if n = 0xE0 then (.inside 2 0 0xA0 0xBF, [])
  else if n = 0xED then (.inside 2 0xD 0x80 0x9F, [])
  else if n < 0xF0 then (.inside 2 (n - 0xE0) 0x80 0xBF, [])
  else if n = 0xF0 then (.inside 3 0 0x90 0xBF, [])
  else if n < 0xF4 then (.inside 3 (n - 0xF0) 0x80 0xBF, [])
  else if n = 0xF4 then (.inside 3 4 0x80 0x8F, [])
  else (.start, [none])

/-- one byte further; a byte that does not continue a character ends it as malformed and is looked at anew -/
def feed : State → UInt8 → State × List (Option Char)
  | .start, b => enter b
  | .inside need acc lo hi, b =>
    let n := b.toNat
    if lo ≤ n ∧ n ≤ hi then
      let acc := acc * 0x40 + (n - 0x80)
      if need ≤ 1 then (.start, [some (Char.ofNat acc)]) else (.inside (need - 1) acc 0x80 0xBF, [])
    else
      let (s, out) := enter b
      (s, none :: out)

/-- characters and malformed stretches of a text, from a given state on -/
def read : State → List UInt8 → List (Option Char)
  | .start, [] => []
  | .inside .., [] => [none]
  | s, b :: bs => (feed s b).2 ++ read (feed s b).1 bs

def decode (bs : List UInt8) : Option (List Char) := (read .start bs).mapM id

/-- the text of any bytes, U+FFFD for each malformed stretch -/
def decodeLossy (bs : List UInt8) : List Char := (read .start bs).map (·.getD '\uFFFD')

def ofString (s : String) : List UInt8 := encode s.toList

def toString? (bs : List UInt8) : Option String := (decode bs).map String.ofList

end ServiceMonitor.Utf8
