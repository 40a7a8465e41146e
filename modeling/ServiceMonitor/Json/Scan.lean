import ServiceMonitor.Json.Error
import ServiceMonitor.Text.Utf8

/-!
The lexical parts of JSON, read off the front of a list of bytes: blanks, literals, strings and numbers.

Each reader returns what it read and the bytes that are left. Numbers keep 64 bits of digits: a whole number that
needs no more is exact; any other is the double of its first digits, multiplied or divided by a power of ten.
-/

namespace ServiceMonitor.Json

abbrev Bytes := List UInt8

def isBlankByte (b : UInt8) : Bool := b = 0x20 || b = 0x09 || b = 0x0A || b = 0x0D

def skipBlank (bs : Bytes) : Bytes := bs.dropWhile isBlankByte

def isDigitByte (b : UInt8) : Bool := 0x30 ≤ b && b ≤ 0x39

/-! ## Literals -/

/-- the rest of a literal whose first letter was seen -/
def literal : Bytes → Bytes → Except Error (Unit × Bytes)
  | [], bs => .ok ((), bs)
  | _ :: _, [] => .error .eofValue
  | w :: ws, b :: bs => if w = b then literal ws bs else .error .expectedIdent

def restOfNull (bs : Bytes) : Except Error (Unit × Bytes) := literal [0x75, 0x6C, 0x6C] bs
def restOfTrue (bs : Bytes) : Except Error (Unit × Bytes) := literal [0x72, 0x75, 0x65] bs
def restOfFalse (bs : Bytes) : Except Error (Unit × Bytes) := literal [0x61, 0x6C, 0x73, 0x65] bs

/-! ## Strings -/

def hexValue (b : UInt8) : Option Nat :=
  if 0x30 ≤ b && b ≤ 0x39 then some (b.toNat - 0x30)
  else if 0x61 ≤ b && b ≤ 0x66 then some (b.toNat - 0x61 + 10)
  else if 0x41 ≤ b && b ≤ 0x46 then some (b.toNat - 0x41 + 10)
  else none

def hexEscape : Bytes → Except Error (Nat × Bytes)
  | a :: b :: c :: d :: r =>
    match hexValue a, hexValue b, hexValue c, hexValue d with
    | some a, some b, some c, some d => .ok (((a * 16 + b) * 16 + c) * 16 + d, r)
    | _, _, _, _ => .error .invalidEscape
  | _ => .error .eofString

/-- what follows a leading surrogate: a second escape with a trailing one -/
def trailingSurrogate (lead : Nat) : Bytes → Except Error (Bytes × Bytes)
  | [] => .error .eofString
  | [0x5C] => .error .eofString
  | 0x5C :: 0x75 :: r => do
    let (n, r) ← hexEscape r
    if 0xDC00 ≤ n ∧ n ≤ 0xDFFF then
      .ok (Utf8.encodeChar (Char.ofNat ((lead - 0xD800) * 0x400 + (n - 0xDC00) + 0x10000)), r)
    else .error .loneSurrogate
  | _ => .error .endOfHexEscape

/-- what follows a backslash, as bytes of the string -/
def escape : Bytes → Except Error (Bytes × Bytes)
  | [] => .error .eofString
  | b :: r =>
    if b = 0x22 || b = 0x5C || b = 0x2F then .ok ([b], r)
    else if b = 0x62 then .ok ([0x08], r)
    else if b = 0x66 then .ok ([0x0C], r)
    else if b = 0x6E then .ok ([0x0A], r)
    else if b = 0x72 then .ok ([0x0D], r)
    else if b = 0x74 then .ok ([0x09], r)
    else if b = 0x75 then do
      let (n, r) ← hexEscape r
      if 0xDC00 ≤ n ∧ n ≤ 0xDFFF then .error .loneSurrogate
      else if 0xD800 ≤ n ∧ n ≤ 0xDBFF then trailingSurrogate n r
      else .ok (Utf8.encodeChar (Char.ofNat n), r)
    else .error .invalidEscape

/-- the bytes of a string up to its closing quote, `acc` being those before in reverse -/
def stringBytes : Nat → Bytes → Bytes → Except Error (Bytes × Bytes)
  | 0, _, _ => .error .eofString
  | _ + 1, _, [] => .error .eofString
  | fuel + 1, acc, b :: r =>
    if b = 0x22 then .ok (acc.reverse, r)
    else if b = 0x5C then
      match escape r with
      | .ok (out, r) => stringBytes fuel (out.reverse ++ acc) r
      | .error e => .error e
    else if b < 0x20 then .error .controlCharacter
    else stringBytes fuel (b :: acc) r

def string (bs : Bytes) : Except Error (String × Bytes) := do
  let (text, r) ← stringBytes (bs.length + 1) [] bs
  match Utf8.toString? text with
  | some s => .ok (s, r)
  | none => .error .invalidUnicode

/-- passes over a string after its opening quote; escapes are checked, characters are not -/
def skipString : Nat → Bytes → Except Error (Unit × Bytes)
  | 0, _ => .error .eofString
  | _ + 1, [] => .error .eofString
  | fuel + 1, b :: r =>
    if b = 0x22 then .ok ((), r)
    else if b = 0x5C then
      match r with
      | [] => .error .eofString
      | e :: r =>
        if e = 0x75 then
          match hexEscape r with
          | .ok (_, r) => skipString fuel r
          | .error e => .error e
        else if [0x22, 0x5C, 0x2F, 0x62, 0x66, 0x6E, 0x72, 0x74].contains e then skipString fuel r
        else .error .invalidEscape
    else if b < 0x20 then .error .controlCharacter
    else skipString fuel r

/-! ## Numbers -/

def wordBound : Nat := Nat.pow 2 64

/-- digits gathered into a word: the number, how many of them, and those that no longer fit -/
def gather (n count : Nat) : Bytes → Nat × Nat × Bytes
  | [] => (n, count, [])
  | b :: r =>
    let n' := n * 10 + (b.toNat - 0x30)
    if n' < wordBound then gather n' (count + 1) r else (n, count, b :: r)

/-- `word · 10^exp`: one multiplication or division by a power of ten below 10^309, after divisions by 10^308 -/
def scale : Nat → Double → Int → Except Error Double
  | 0, f, _ => .ok f
  | fuel + 1, f, exp =>
    if exp.natAbs ≤ 308 then
      let pow := Double.ofNat (Nat.pow 10 exp.natAbs)
      if 0 ≤ exp then
        let f := f.mul pow
        if f.isInfinite then .error .numberOutOfRange else .ok f
      else .ok (f.div pow)
    else if f.isZero then .ok f
    else if 0 ≤ exp then .error .numberOutOfRange
    else scale fuel (f.div (Double.ofNat (Nat.pow 10 308))) (exp + 308)

/-- the double of a word and a decimal exponent -/
def ofParts (positive : Bool) (word : Nat) (exp : Int) : Except Error Double :=
  (scale 4 (Double.ofNat word) exp).map fun f => if positive then f else f.neg

def exponentPart (positive : Bool) (word : Nat) (start : Int) (bs : Bytes) : Except Error (Number × Bytes) := do
  let (up, bs) := match bs with
    | 0x2B :: r => (true, r)
    | 0x2D :: r => (false, r)
    | r => (true, r)
  match bs with
  | [] => .error .eofValue
  | b :: _ =>
    if isDigitByte b then
      let digits := bs.takeWhile isDigitByte
      let r := bs.dropWhile isDigitByte
      let n : Nat := digits.foldl (fun (n : Nat) (d : UInt8) => n * 10 + (d.toNat - 0x30)) 0
      if 2147483647 < n then
        if word != 0 && up then .error .numberOutOfRange else .ok (.real (.fin (!positive) 0 0), r)
      else
        let exp : Int := if up then min (start + (n : Int)) 2147483647 else max (start - (n : Int)) (-2147483648)
        let f ← ofParts positive word exp
        .ok (.real f, r)
    else .error .invalidNumber

/-- a fraction after its point; `word` holds the digits before it but for the last `dropped` ones -/
def fractionPart (positive : Bool) (word dropped : Nat) (bs : Bytes) : Except Error (Number × Bytes) := do
  let digits := bs.takeWhile isDigitByte
  let r := bs.dropWhile isDigitByte
  if digits.isEmpty then (if r.isEmpty then .error .eofValue else .error .invalidNumber)
  else
    let (word, count, _) := gather word 0 digits
    let exp : Int := dropped - count
    match r with
    | 0x65 :: r | 0x45 :: r => exponentPart positive word exp r
    | _ => do
      let f ← ofParts positive word exp
      .ok (.real f, r)

/-- a whole number that fits a word; minus zero and what a signed word cannot hold become doubles -/
def wholeNumber (positive : Bool) (word : Nat) : Number :=
  if positive then .nat word
  else if 1 ≤ word ∧ word ≤ Nat.pow 2 63 then .negative word
  else .real (Double.ofNat word).neg

def number (positive : Bool) (bs : Bytes) : Except Error (Number × Bytes) := do
  match bs with
  | [] => .error .eofValue
  | b :: r =>
    if !isDigitByte b then .error .invalidNumber
    else
      let leading := b = 0x30
      if leading && (match r with | c :: _ => isDigitByte c | [] => false) then .error .invalidNumber
      else
        let digits := bs.takeWhile isDigitByte
        let r := bs.dropWhile isDigitByte
        let (word, _, left) := gather 0 0 digits
        match r with
        | 0x2E :: r => fractionPart positive word left.length r
        | 0x65 :: r | 0x45 :: r => exponentPart positive word left.length r
        | _ =>
          if left.isEmpty then .ok (wholeNumber positive word, r)
          else do
            let f ← ofParts positive word left.length
            .ok (.real f, r)

def skipExponent (bs : Bytes) : Except Error (Unit × Bytes) :=
  let bs := match bs with
    | 0x2B :: r | 0x2D :: r => r
    | r => r
  match bs with
  | b :: _ => if isDigitByte b then .ok ((), bs.dropWhile isDigitByte) else .error .invalidNumber
  | [] => .error .invalidNumber

/-- passes over a number after its sign, whatever its size -/
def skipNumber (bs : Bytes) : Except Error (Unit × Bytes) :=
  match bs with
  | [] => .error .invalidNumber
  | b :: r =>
    if !isDigitByte b then .error .invalidNumber
    else if b = 0x30 && (match r with | c :: _ => isDigitByte c | [] => false) then .error .invalidNumber
    else
      match bs.dropWhile isDigitByte with
      | 0x2E :: r =>
        if (r.takeWhile isDigitByte).isEmpty then .error .invalidNumber
        else
          match r.dropWhile isDigitByte with
          | 0x65 :: r | 0x45 :: r => skipExponent r
          | r => .ok ((), r)
      | 0x65 :: r | 0x45 :: r => skipExponent r
      | r => .ok ((), r)

end ServiceMonitor.Json
