import Stepwise.Decimal.Shortest

/-!
# Floating point numbers as text

* `Binary64.text`: the shortest decimal that reads back. It is written plainly when
  `1e-5 ≤ |x| < 1e16` or `x` is zero, always with a decimal, and with an exponent otherwise.
* `Binary64.ofText?`: digits with an optional sign, point and exponent, or a word for an infinity
  or for not a number.
-/

namespace Stepwise.Binary64

open Decimal

/-- Where positional notation ends: the place of the point, counted from the first digit, is above
`least` and at most `greatest`. -/
structure Positional where
  least : Int
  greatest : Int

/-- Numbers are written plainly from `1e-5` up to below `1e16`. -/
def Positional.plain : Positional := ⟨-5, 16⟩

/-- A decimal without trailing zeros among its digits. -/
def dropZeros : Nat → Digits → Digits
  | 0, d => d
  | fuel + 1, d =>
    if d.digits % 10 = 0 && d.digits != 0 then dropZeros fuel ⟨d.digits / 10, d.exponent + 1⟩ else d

def zeros (n : Int) : List Char := List.replicate n.toNat '0'

/-- A decimal without its sign. -/
def decimalText (d : Digits) : List Char :=
  let ds := Nat.toDigits 10 d.digits
  let point : Int := ds.length + d.exponent
  if Positional.plain.least < point && point ≤ Positional.plain.greatest then
    if 0 ≤ d.exponent then ds ++ zeros d.exponent ++ ['.', '0']
    else if 0 < point then ds.take point.toNat ++ ['.'] ++ ds.drop point.toNat
    else ['0', '.'] ++ zeros (-point) ++ ds
  else
    let mantissa := match ds with
      | [c] => [c]
      | ds => ds.take 1 ++ ['.'] ++ ds.drop 1
    mantissa ++ ['e'] ++ (toString (point - 1)).toList

/-- The text of a finite number. -/
def finiteText (x : Binary64) : List Char :=
  let unsigned := if x.isZero then ['0', '.', '0'] else decimalText (dropZeros 20 (shortest x))
  if x.isNegative then '-' :: unsigned else unsigned

/-- The text of a number. -/
def text (x : Binary64) : String :=
  if x.isNaN then ".nan"
  else if x.isInfinite then (if x.isNegative then "-.inf" else ".inf")
  else String.ofList (finiteText x)

/-! ## Reading -/

/-- A whole number from its decimal digits. -/
def ofDigits (ds : List Char) : Nat :=
  ds.foldl (fun n c => 10 * n + (c.toNat - '0'.toNat)) 0

/-- A sign, if there is one, and what follows it. -/
def splitSign : List Char → Bool × List Char
  | '-' :: cs => (true, cs)
  | '+' :: cs => (false, cs)
  | cs => (false, cs)

/-- The exponent of a decimal; no text is the exponent 0. -/
def readExponent? : List Char → Option Int
  | [] => some 0
  | c :: cs =>
    let (negative, ds) := splitSign cs
    if (c = 'e' || c = 'E') && !ds.isEmpty && ds.all Char.isDigit then
      some (if negative then -(ofDigits ds : Int) else ofDigits ds)
    else none

/-- An unsigned decimal: digits with at most one point, at least one digit, and an exponent. -/
def readDecimal? (negative : Bool) (cs : List Char) : Option Binary64 := do
  let whole := cs.takeWhile Char.isDigit
  let (fraction, rest) := match cs.dropWhile Char.isDigit with
    | '.' :: cs => (cs.takeWhile Char.isDigit, cs.dropWhile Char.isDigit)
    | cs => ([], cs)
  if whole.isEmpty && fraction.isEmpty then none
  let e ← readExponent? rest
  some (ofDecimal negative (ofDigits (whole ++ fraction)) (e - fraction.length))

/-- The number that a text denotes. -/
def ofText? (text : String) : Option Binary64 :=
  let (negative, cs) := splitSign text.toList
  let word := String.ofList (cs.map Char.toLower)
  if word = "inf" || word = "infinity" then some (infinity negative)
  else if word = "nan" then some nan
  else readDecimal? negative cs

end Stepwise.Binary64
