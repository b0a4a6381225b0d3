import Stepwise.Decimal.Binary64

/-!
# The shortest decimal that reads back

The text of a floating point number has the fewest digits that still round to it. `Interval` is the
set of reals that do. For 1, 2, … digits the two neighbours of the number among the decimals of
that many digits are tried; the first of these grids with a hit wins, of two hits the nearer one,
and of two equally near ones the even one.
-/

namespace Stepwise.Decimal

/-- The reals from `low / den` to `high / den` around `mid / den`; the ends belong to it when
`closed`. -/
structure Interval where
  low : Nat
  mid : Nat
  high : Nat
  den : Nat
  closed : Bool

/-- The reals that round to a finite number, which lie half a step to either side; below a power of
two the step is half as wide. -/
def Interval.of (x : Binary64) : Interval :=
  let m := x.significand
  let below := if x.magnitude % Binary64.hiddenBit = 0 && 1 < x.exponentField then 1 else 2
  let scale := fun n : Nat => if 0 ≤ x.exponent then n * Nat.pow 2 x.exponent.toNat else n
  { low := scale (4 * m - below), mid := scale (4 * m), high := scale (4 * m + 2)
    den := 4 * (if 0 ≤ x.exponent then 1 else Nat.pow 2 (-x.exponent).toNat)
    closed := m % 2 = 0 }

/-- Whether `n * 10 ^ e` lies in the interval. -/
def Interval.contains (i : Interval) (n : Nat) (e : Int) : Bool :=
  let num := if 0 ≤ e then n * Nat.pow 10 e.toNat * i.den else n * i.den
  let scale := if 0 ≤ e then 1 else Nat.pow 10 (-e).toNat
  if i.closed then i.low * scale ≤ num && num ≤ i.high * scale
  else i.low * scale < num && num < i.high * scale

/-- The largest whole number of units `10 ^ e` that is at most the middle, and twice the rest as
compared with one unit. -/
def Interval.below (i : Interval) (e : Int) : Nat × Ordering :=
  let num := if 0 ≤ e then i.mid else i.mid * Nat.pow 10 (-e).toNat
  let den := if 0 ≤ e then i.den * Nat.pow 10 e.toNat else i.den
  (num / den, compare (2 * (num % den)) den)

/-- The neighbour of the middle on the grid of units `10 ^ e` that lies in the interval. -/
def Interval.onGrid? (i : Interval) (e : Int) : Option Nat :=
  let (n, half) := i.below e
  let nearFirst := half == .lt || (half == .eq && n % 2 = 0)
  let candidates := if nearFirst then [n, n + 1] else [n + 1, n]
  candidates.find? fun k => k != 0 && i.contains k e

/-- The least `k` with `num / den < 10 ^ k`, searched upwards from `k` in at most `fuel` steps. -/
def decimalSize (num den : Nat) : Nat → Int → Int
  | 0, k => k
  | fuel + 1, k =>
    let reached :=
      if 0 ≤ k then num < den * Nat.pow 10 k.toNat else num * Nat.pow 10 (-k).toNat < den
    if reached then k else decimalSize num den fuel (k + 1)

/-- A decimal `digits * 10 ^ exponent`. -/
structure Digits where
  digits : Nat
  exponent : Int

/-- The first grid of `n`, `n + 1`, … digits with a hit, for a number below `10 ^ size`. -/
def Interval.firstHit (i : Interval) (size : Int) : Nat → Nat → Digits
  | 0, _ => ⟨0, 0⟩
  | fuel + 1, n =>
    match i.onGrid? (size - n) with
    | some d => ⟨d, size - n⟩
    | none => i.firstHit size fuel (n + 1)

/-- The shortest decimal that reads back as a finite number other than zero. Seventeen digits
always suffice. -/
def shortest (x : Binary64) : Digits :=
  let i := Interval.of x
  i.firstHit (decimalSize i.mid i.den 640 (-324)) 18 1

end Stepwise.Decimal
