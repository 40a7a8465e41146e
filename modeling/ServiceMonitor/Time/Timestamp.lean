import ServiceMonitor.Text.Blank
import ServiceMonitor.Time.Duration

/-!
Instants of Universal Time to the nanosecond, and their RFC 3339 text.

An instant is kept as its civil fields. `text` writes it with the fewest of 0, 3, 6 or 9 fraction digits that are
exact. `parse` is lenient: blanks may stand before a number or a sign of the date and the time, numbers may be shorter,
a blank may stand for the `T`, the colon of the offset may be missing, and fraction digits after the ninth are dropped.
A leap second is second 60 of any minute.
-/

namespace ServiceMonitor

/-! ## Dates -/

def isLeapYear (y : Int) : Bool := y % 4 = 0 && (y % 100 != 0 || y % 400 = 0)

def daysInMonth (y : Int) (m : Nat) : Nat :=
  if m = 2 then (if isLeapYear y then 29 else 28)
  else if m = 4 || m = 6 || m = 9 || m = 11 then 30
  else 31

structure Civil where
  year : Int
  month : Nat
  day : Nat
  hour : Nat
  minute : Nat
  second : Nat
  nanos : Nat
  deriving DecidableEq, Repr

def minYear : Int := -262143
def maxYear : Int := 262142

/-- the fields name a day of the calendar and a time of that day -/
def Civil.isValid (c : Civil) : Bool :=
  minYear ≤ c.year && c.year ≤ maxYear && 1 ≤ c.month && c.month ≤ 12 && 1 ≤ c.day
    && c.day ≤ daysInMonth c.year c.month && c.hour < 24 && c.minute < 60 && c.second ≤ 60
    && c.nanos < nanosPerSecond

/-- an instant of Universal Time -/
structure Timestamp where
  civil : Civil
  valid : civil.isValid = true
  deriving DecidableEq

namespace Timestamp

instance : Repr Timestamp := ⟨fun t n => reprPrec t.civil n⟩

def epoch : Timestamp := ⟨⟨1970, 1, 1, 0, 0, 0, 0⟩, by decide⟩

instance : Inhabited Timestamp := ⟨epoch⟩

def ofCivil? (c : Civil) : Option Timestamp := if h : c.isValid = true then some ⟨c, h⟩ else none

/-! ## Text -/

/-- a year: four digits, outside 0 to 9999 with a sign -/
def yearText (y : Int) : String :=
  if y < 0 then "-" ++ Duration.padded 4 y.natAbs
  else if 9999 < y then "+" ++ toString y.natAbs
  else Duration.padded 4 y.natAbs

/-- the fraction of a second: none, or the fewest of 3, 6 and 9 digits -/
def fractionText (n : Nat) : String :=
  if n = 0 then ""
  else if n % 1000000 = 0 then "." ++ Duration.padded 3 (n / 1000000)
  else if n % 1000 = 0 then "." ++ Duration.padded 6 (n / 1000)
  else "." ++ Duration.padded 9 n

def localText (c : Civil) : String :=
  yearText c.year ++ "-" ++ Duration.padded 2 c.month ++ "-" ++ Duration.padded 2 c.day
    ++ "T" ++ Duration.padded 2 c.hour ++ ":" ++ Duration.padded 2 c.minute ++ ":" ++ Duration.padded 2 c.second
    ++ fractionText c.nanos

/-- the text in JSON: the offset is `Z` -/
def text (t : Timestamp) : String := localText t.civil ++ "Z"

def textWithOffset (t : Timestamp) : String := localText t.civil ++ "+00:00"

/-! ## Reading -/

inductive Fault where
  | outOfRange
  | impossible
  | invalid
  | tooShort
  | tooLong
  deriving DecidableEq, Repr

def Fault.message : Fault → String
  | .outOfRange => "input is out of range"
  | .impossible => "no possible date and time matching input"
  | .invalid => "input contains invalid characters"
  | .tooShort => "premature end of input"
  | .tooLong => "trailing input"

def digitsValue (ds : List Char) : Nat := ds.foldl (fun n c => n * 10 + (c.toNat - 48)) 0

/-- a number of one digit at least and `width` at most -/
def number (width : Nat) (cs : List Char) : Except Fault (Nat × List Char) :=
  match cs with
  | [] => .error .tooShort
  | _ :: _ =>
    let ds := (cs.take width).takeWhile Char.isDigit
    if ds.isEmpty then .error .invalid
    else
      let n := digitsValue ds
      if n < Nat.pow 2 63 then .ok (n, cs.drop ds.length) else .error .outOfRange

def field (lo hi : Nat) (cs : List Char) : Except Fault (Nat × List Char) := do
  let (n, r) ← number 2 (Text.trimStart cs)
  if lo ≤ n && n ≤ hi then .ok (n, r) else .error .outOfRange

/-- blanks, then the year: four digits at most, any number of them behind a sign -/
def yearField (cs : List Char) : Except Fault (Int × List Char) := do
  let cs := Text.trimStart cs
  let ((y, r) : Int × List Char) ← match cs with
    | '-' :: r => do let (n, r) ← number r.length r; .ok (-(n : Int), r)
    | '+' :: r => do let (n, r) ← number r.length r; .ok ((n : Int), r)
    | r => do let (n, r) ← number 4 r; .ok ((n : Int), r)
  if -2147483648 ≤ y && y ≤ 2147483647 then .ok (y, r) else .error .outOfRange

def sign (c : Char) (cs : List Char) : Except Fault (List Char) :=
  match Text.trimStart cs with
  | [] => .error .tooShort
  | d :: r => if c = d then .ok r else .error .invalid

/-- the fraction behind a point, in nanoseconds -/
def fractionField (cs : List Char) : Except Fault (Nat × List Char) :=
  match cs with
  | '.' :: r => do
    let (n, r') ← number 9 r
    let digits := r.length - r'.length
    .ok (n * Nat.pow 10 (9 - digits), r'.dropWhile Char.isDigit)
  | r => .ok (0, r)

/-- two digits at the front; a lone character of several bytes counts as two that are none -/
def twoDigits (cs : List Char) : Except Fault (Nat × Nat × List Char) :=
  match cs with
  | [] => .error .tooShort
  | [c] => if c.utf8Size = 1 then .error .tooShort else .error .invalid
  | c :: d :: r =>
    if c.isDigit && d.isDigit then .ok (c.toNat - 48, d.toNat - 48, r) else .error .invalid

/-- the offset in minutes east -/
def offsetField (cs : List Char) : Except Fault (Int × List Char) :=
  let behindSign (east : Bool) (r : List Char) : Except Fault (Int × List Char) := do
    let (h, h', r) ← twoDigits r
    let r := r.dropWhile (fun c => c = ':' || Text.isBlank c)
    let (m, m', r) ← twoDigits r
    if 5 < m then .error .outOfRange
    else
      let n : Int := ((h * 10 + h') * 60 + m * 10 + m' : Nat)
      .ok (if east then n else -n, r)
  match cs with
  | [] => .error .tooShort
  | 'Z' :: r | 'z' :: r => .ok (0, r)
  | '+' :: r => behindSign true r
  | '-' :: r => behindSign false r
  | '\u2212' :: r => behindSign false r
  | c :: d :: e :: r =>
    if [c, d, e].map Char.toUpper = ['U', 'T', 'C'] then .ok (0, r) else .error .invalid
  | _ => .error .invalid

def dayBefore (c : Civil) : Civil :=
  if 1 < c.day then { c with day := c.day - 1 }
  else if 1 < c.month then { c with month := c.month - 1, day := daysInMonth c.year (c.month - 1) }
  else { c with year := c.year - 1, month := 12, day := 31 }

def dayAfter (c : Civil) : Civil :=
  if c.day < daysInMonth c.year c.month then { c with day := c.day + 1 }
  else if c.month < 12 then { c with month := c.month + 1, day := 1 }
  else { c with year := c.year + 1, month := 1, day := 1 }

/-- a local time, `offset` minutes east, in Universal Time; the offset is less than a day -/
def toUniversal (c : Civil) (offset : Int) : Civil :=
  let minutes : Int := (c.hour * 60 + c.minute : Nat) - offset
  let clock (m : Int) (c : Civil) : Civil := { c with hour := (m / 60).toNat, minute := (m % 60).toNat }
  if minutes < 0 then clock (minutes + 1440) (dayBefore c)
  else if 1440 ≤ minutes then clock (minutes - 1440) (dayAfter c)
  else clock minutes c

def parse (s : String) : Except Fault Timestamp := do
  let (year, r) ← yearField s.toList
  let r ← sign '-' r
  let (month, r) ← field 1 12 r
  let r ← sign '-' r
  let (day, r) ← field 1 31 r
  let r ← match r with
    | [] => .error .tooShort
    | c :: r => if c = 'T' || c = 't' || c = ' ' then .ok r else .error .invalid
  let (hour, r) ← field 0 23 r
  let r ← sign ':' r
  let (minute, r) ← field 0 59 r
  let r ← sign ':' r
  let (second, r) ← field 0 60 r
  let (nanos, r) ← fractionField r
  let (offset, r) ← offsetField (Text.trimStart r)
  if !(Text.trimStart r).isEmpty then .error .tooLong
  else
    let there : Civil := ⟨year, month, day, hour, minute, second, nanos⟩
    if !there.isValid || 1440 ≤ offset.natAbs then .error .outOfRange
    else
      match ofCivil? (toUniversal there offset) with
      | some t => .ok t
      | none => .error .impossible

end Timestamp

end ServiceMonitor
