import ServiceMonitor.Number.Double

/-!
The shortest decimal text of a double.

`shortest` finds, for a finite double other than zero, the decimal with the fewest digits that still rounds to it, and
of these the nearest. `Layout` holds what a format decides on top: which magnitudes are written positionally and how
an exponent looks.
-/

namespace ServiceMonitor.Double

/-- the decimal `digits · 10^exponent` -/
structure Decimal where
  digits : Nat
  exponent : Int
  deriving DecidableEq, Repr

/-- `10^p` as a ratio -/
def tenTo (p : Int) : Nat × Nat := if 0 ≤ p then (Nat.pow 10 p.toNat, 1) else (1, Nat.pow 10 (-p).toNat)

/-- without trailing zeros; a double has no more than `fuel` digits here -/
def Decimal.trim : Nat → Decimal → Decimal
  | 0, d => d
  | fuel + 1, d => if d.digits != 0 && d.digits % 10 = 0 then trim fuel ⟨d.digits / 10, d.exponent + 1⟩ else d

/-- the decimals with step `10^p` next to `value / scale` that lie between `lo / scale` and `hi / scale`, the nearer
first; the ends belong to the interval if `closed` -/
def gridHits (value lo hi scale : Nat) (closed : Bool) (p : Int) : List Decimal :=
  let (num, den) := tenTo p
  let step := num * scale
  let k := value * den / step
  let inside (k : Nat) : Bool :=
    let x := k * step
    if closed then lo * den ≤ x && x ≤ hi * den else lo * den < x && x < hi * den
  let below := value * den - k * step
  let above := (k + 1) * step - value * den
  let order := if below < above || (below = above && k % 2 = 0) then [k, k + 1] else [k + 1, k]
  (order.filter inside).map (fun k => ⟨k, p⟩)

/-- the fewest digits first: the first grid that has a hit decides -/
def search (value lo hi scale : Nat) (closed : Bool) (top : Int) : Nat → Nat → Decimal
  | 0, n => ⟨0, top - n⟩
  | fuel + 1, n =>
    match gridHits value lo hi scale closed (top - n) with
    | d :: _ => d.trim 18
    | [] => search value lo hi scale closed top fuel (n + 1)

/-- the shortest decimal that rounds to the double of significand `m ≠ 0` and exponent `e` -/
def shortest (m e : Nat) : Decimal :=
  let scale := 4 * unit
  let value := 4 * units m e
  let lo := value - (if m = Nat.pow 2 52 && e != 0 then 1 else 2) * Nat.pow 2 e
  let hi := value + 2 * Nat.pow 2 e
  let top : Int := (Nat.toDigits 10 (value * Nat.pow 10 400 / scale)).length - 400
  search value lo hi scale (m % 2 = 0) top 18 1

structure Layout where
  /-- scientific exponents from here -/
  fixedFrom : Int
  /-- up to here are written positionally -/
  fixedTo : Int
  /-- the mark before the digits of a positive exponent -/
  plus : String
  /-- the fewest digits of an exponent -/
  exponentWidth : Nat

/-- digits with a point after the first `n` of them -/
def pointAfter (n : Nat) (ds : List Char) : List Char :=
  ds.take n ++ '.' :: (if (ds.drop n).isEmpty then ['0'] else ds.drop n)

/-- a positive decimal in a layout -/
def Layout.decimal (l : Layout) (d : Decimal) : List Char :=
  let ds := Nat.toDigits 10 d.digits
  let sci : Int := d.exponent + ds.length - 1
  if l.fixedFrom ≤ sci && sci ≤ l.fixedTo then
    if 0 ≤ d.exponent then ds ++ List.replicate d.exponent.toNat '0' ++ ['.', '0']
    else if 0 ≤ sci then pointAfter (sci.toNat + 1) ds
    else '0' :: '.' :: List.replicate ((-sci).toNat - 1) '0' ++ ds
  else
    let mantissa := if ds.length = 1 then ds else pointAfter 1 ds
    let exp := Nat.toDigits 10 sci.natAbs
    mantissa ++ 'e' :: (if sci < 0 then ['-'] else l.plus.toList)
      ++ List.replicate (l.exponentWidth - exp.length) '0' ++ exp

def Layout.text (l : Layout) : Double → String
  | .nan => "NaN"
  | .inf s => if s then "-inf" else "inf"
  | .fin s m e =>
    let body := if m = 0 then ['0', '.', '0'] else l.decimal (shortest m e)
    String.ofList (if s then '-' :: body else body)

/-- descriptions of values: positional below 10^16, and then no plus sign -/
def described : Layout := ⟨-5, 15, "", 1⟩

end ServiceMonitor.Double
