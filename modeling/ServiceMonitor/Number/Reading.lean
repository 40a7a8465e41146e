import ServiceMonitor.Number.Double

/-!
Reading a double from decimal text: an optional sign, then `inf`, `infinity` or `nan` in any case, or digits with an
optional point and an optional exponent. The value is rounded once.
-/

namespace ServiceMonitor.Double

def digitsValue (ds : List Char) : Nat := ds.foldl (fun n c => n * 10 + (c.toNat - 48)) 0

/-- `± digits · 10^exp`, with exponents far out of range cut short -/
def ofDecimal (neg : Bool) (ds : List Char) (exp : Int) : Double :=
  let n := digitsValue ds
  if n = 0 then .fin neg 0 0
  else if 400 < exp then .inf neg
  else if exp < -(400 + ds.length : Int) then .fin neg 0 0
  else if 0 ≤ exp then ofRatio neg (n * Nat.pow 10 exp.toNat) 1
  else ofRatio neg n (Nat.pow 10 (-exp).toNat)

/-- the exponent behind an `e`, or zero when there is none -/
def exponent? : List Char → Option Int
  | [] => some 0
  | c :: cs =>
    if c = 'e' || c = 'E' then
      let (neg, ds) := match cs with
        | '-' :: r => (true, r)
        | '+' :: r => (false, r)
        | r => (false, r)
      if ds.isEmpty || !ds.all Char.isDigit then none
      else
        let ds := ds.dropWhile (· = '0')
        let n : Int := if 9 < ds.length then 1000000000 else digitsValue ds
        some (if neg then -n else n)
    else none

/-- a number without its sign -/
def unsigned? (neg : Bool) (cs : List Char) : Option Double :=
  let word := cs.map Char.toLower
  if word = "inf".toList || word = "infinity".toList then some (.inf neg)
  else if word = "nan".toList then some .nan
  else
    let whole := cs.takeWhile Char.isDigit
    let r := cs.dropWhile Char.isDigit
    let (frac, r) := match r with
      | '.' :: t => (t.takeWhile Char.isDigit, t.dropWhile Char.isDigit)
      | _ => ([], r)
    if whole.isEmpty && frac.isEmpty then none
    else (exponent? r).map fun e => ofDecimal neg (whole ++ frac) (e - frac.length)

def ofText? (s : String) : Option Double :=
  match s.toList with
  | '-' :: cs => unsigned? true cs
  | '+' :: cs => unsigned? false cs
  | cs => unsigned? false cs

end ServiceMonitor.Double
