/-!
Punycode: a label beyond ASCII in letters, digits and hyphens.

The ASCII characters of the label come first, behind them a hyphen. Then, for each other character in the order of code points, stands
how far it lies behind the one before, counting through all positions of all code points. These distances are numbers in base
thirty-six with digits of adaptive weight.
-/

namespace ServiceMonitor.Url.Punycode

/-- a digit: letters first -/
def digit (d : Nat) : Char := Char.ofNat (if d < 26 then 97 + d else 22 + d)

def value? (c : Char) : Option Nat :=
  let n := c.toNat
  if 97 ≤ n && n ≤ 122 then some (n - 97)
  else if 65 ≤ n && n ≤ 90 then some (n - 65)
  else if 48 ≤ n && n ≤ 57 then some (n - 22)
  else none

/-- a digit below this one is the last of its number -/
def threshold (bias place : Nat) : Nat := max 1 (min 26 (place - bias))

/-- how often a distance is divided by thirty-five until it is small, times thirty-six, and what is left -/
def shrink (delta place : Nat) : Nat × Nat :=
  if 455 < delta then shrink (delta / 35) (place + 36) else (delta, place)
termination_by delta
decreasing_by omega

/-- the bias after a distance was written; `count` characters are in place now -/
def adapt (delta count : Nat) (first : Bool) : Nat :=
  let d := if first then delta / 700 else delta / 2
  let (d, place) := shrink (d + d / count) 0
  place + 36 * d / (d + 38)

/-! ## Writing -/

def digits (bias place q : Nat) : List Char :=
  let t := threshold bias place
  if q < t then [digit q] else digit (t + (q - t) % (36 - t)) :: digits bias (place + 36) ((q - t) / (36 - t))
termination_by q
decreasing_by
  have h : threshold bias place ≤ 26 ∧ 1 ≤ threshold bias place := by unfold threshold; omega
  exact Nat.lt_of_le_of_lt (Nat.div_le_self _ _) (by omega)

/-- the distance so far, the bias, how many characters are written, and the digits -/
structure Writer where
  delta : Nat
  bias : Nat
  written : Nat
  out : List Char

/-- goes over one character of the label while those with code point `n` are written -/
def Writer.see (basic n : Nat) (w : Writer) (c : Char) : Writer :=
  if c.toNat < n then { w with delta := w.delta + 1 }
  else if c.toNat = n then
    { delta := 0
      bias := adapt w.delta (w.written + 1) (w.written = basic)
      written := w.written + 1
      out := w.out ++ digits w.bias 36 w.delta }
  else w

def Writer.write (basic : Nat) (label : List Char) : Nat → List Nat → Writer → Writer
  | _, [], w => w
  | n, m :: ms, w =>
    let w : Writer := { w with delta := w.delta + (m - n) * (w.written + 1) }
    let w := label.foldl (Writer.see basic m) w
    write basic label (m + 1) ms { w with delta := w.delta + 1 }

def encode (label : List Char) : List Char :=
  let basic := label.filter fun c => c.toNat < 0x80
  let others := (label.map Char.toNat).filter (0x80 ≤ ·)
  let w := Writer.write basic.length label 0x80 (others.mergeSort.eraseDups) ⟨0, 72, basic.length, []⟩
  basic ++ (if basic.isEmpty then [] else ['-']) ++ w.out

/-! ## Reading -/

/-- where the reader stands: the code point and position so far, the number that is being read, and the label -/
structure Reader where
  point : Nat
  index : Nat
  /-- the position before this number -/
  before : Nat
  weight : Nat
  place : Nat
  bias : Nat
  out : List Char

def Reader.feed (r : Reader) (c : Char) : Option Reader := do
  let d ← value? c
  let t := threshold r.bias r.place
  let index := r.index + d * r.weight
  if t ≤ d then some { r with index := index, weight := r.weight * (36 - t), place := r.place + 36 }
  else
    let count := r.out.length + 1
    let point := r.point + index / count
    let position := index % count
    if point.isValidChar then
      some
        { point := point
          index := position + 1
          before := position + 1
          weight := 1
          place := 36
          bias := adapt (index - r.before) count (r.before = 0)
          out := r.out.insertIdx position (Char.ofNat point) }
    else none

def decode (cs : List Char) : Option (List Char) := do
  let tail := (cs.reverse.takeWhile (· != '-')).reverse
  let basic := cs.take (cs.length - tail.length - 1)
  let tail := if basic.isEmpty then cs else tail
  let r ← tail.foldlM Reader.feed ⟨0x80, 0, 0, 1, 36, 72, basic⟩
  if r.place = 36 then some r.out else none

end ServiceMonitor.Url.Punycode
