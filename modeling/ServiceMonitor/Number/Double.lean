/-!
IEEE 754 double precision, computed exactly.

A finite double is `± m · 2^e / 2^1074` with natural `m` and `e`, so `m` counts units of `2^e` smallest subnormals.
Every operation computes its exact result as a ratio of natural numbers and rounds it once: `ofRatio` takes the ratio
to the nearest double, a tie to the one with the even significand, and beyond the largest one to infinity.
-/

namespace ServiceMonitor

/-- a double: not a number, an infinity, or the finite value `± m · 2^e / 2^1074` -/
inductive Double where
  | nan
  | inf (neg : Bool)
  | fin (neg : Bool) (m e : Nat)
  deriving DecidableEq, Repr, Inhabited

namespace Double

/-- the weight of the unit: a finite double counts 2^-1074 -/
def unit : Nat := Nat.pow 2 1074

/-- `num / den` to the nearest natural number, a half to the even neighbour -/
def roundHalfEven (num den : Nat) : Nat :=
  let q := num / den
  let r := num % den
  if 2 * r < den then q
  else if den < 2 * r then q + 1
  else q + q % 2

/-- the double nearest to `± num / den`, ties to the even significand -/
def ofRatio (neg : Bool) (num den : Nat) : Double :=
  let scaled := num * unit
  let e := (scaled / den).log2 - 52
  let m := roundHalfEven scaled (den * Nat.pow 2 e)
  let (m, e) := if m = Nat.pow 2 53 then (Nat.pow 2 52, e + 1) else (m, e)
  if 2045 < e then .inf neg else .fin neg m e

def ofNat (n : Nat) : Double := ofRatio false n 1

def zero : Double := .fin false 0 0

def units (m e : Nat) : Nat := m * Nat.pow 2 e

def isFinite : Double → Bool
  | .fin .. => true
  | _ => false

def isInfinite : Double → Bool
  | .inf _ => true
  | _ => false

def isZero : Double → Bool
  | .fin _ 0 _ => true
  | _ => false

def neg : Double → Double
  | .nan => .nan
  | .inf s => .inf (!s)
  | .fin s m e => .fin (!s) m e

def mul : Double → Double → Double
  | .nan, _ | _, .nan => .nan
  | .inf s, .inf t => .inf (s != t)
  | .inf s, .fin t m _ => if m = 0 then .nan else .inf (s != t)
  | .fin s m _, .inf t => if m = 0 then .nan else .inf (s != t)
  | .fin s m e, .fin t n f => ofRatio (s != t) (units m e * units n f) (unit * unit)

def div : Double → Double → Double
  | .nan, _ | _, .nan => .nan
  | .inf _, .inf _ => .nan
  | .inf s, .fin t _ _ => .inf (s != t)
  | .fin s _ _, .inf t => .fin (s != t) 0 0
  | .fin s m e, .fin t n f =>
    if n = 0 then (if m = 0 then .nan else .inf (s != t)) else ofRatio (s != t) (units m e) (units n f)

def add : Double → Double → Double
  | .nan, _ | _, .nan => .nan
  | .inf s, .inf t => if s = t then .inf s else .nan
  | .inf s, .fin .. => .inf s
  | .fin .., .inf t => .inf t
  | .fin s m e, .fin t n f =>
    let a := units m e
    let b := units n f
    if s = t then ofRatio s (a + b) unit
    else if a = b then zero
    else if b < a then ofRatio s (a - b) unit
    else ofRatio t (b - a) unit

/-- the finite value in units, with its sign -/
def signedUnits (s : Bool) (m e : Nat) : Int := if s then - (units m e : Int) else units m e

/-- strictly below; nothing is below or above what is not a number -/
def lt : Double → Double → Bool
  | .nan, _ | _, .nan => false
  | .inf s, .inf t => s && !t
  | .inf s, .fin .. => s
  | .fin .., .inf t => !t
  | .fin s m e, .fin t n f => signedUnits s m e < signedUnits t n f

/-- `x^n` by squaring: the running product takes the current square wherever the exponent has a bit -/
def powLoop : Nat → Double → Nat → Double → Double
  | 0, _, _, r => r
  | fuel + 1, x, n, r =>
    let r := if n % 2 = 1 then mul r x else r
    if n / 2 = 0 then r else powLoop fuel (mul x x) (n / 2) r

/-- `x^n`; the exponent's bit length bounds the number of squarings -/
def pow (x : Double) (n : Nat) : Double := powLoop (n.log2 + 1) x n (ofNat 1)

end Double

end ServiceMonitor
