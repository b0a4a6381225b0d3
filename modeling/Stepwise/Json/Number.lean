import Stepwise.Json.Basic
import Stepwise.Value.Basic

/-!
# The value of a JSON number

A number without point and exponent is whole if 64 bits hold it, and minus zero is not. Any other
is a floating point number. Its digits are taken as long as 64 bits hold them, and the result is
multiplied or divided by a power of ten, rounded each time. A number beyond the range of floating
point numbers has no value.
-/

namespace Stepwise.NumberText

/-- The greatest number made of digits that are taken. -/
def maxSignificand : Nat := Nat.pow 2 64 - 1

/-- The greatest exponent that is taken as written. -/
def maxExponent : Nat := Nat.pow 2 31 - 1

/-- Take digits as long as they fit; the number of those taken comes with the result. -/
def takeDigits (n : Nat) : List Char → Nat × Nat
  | [] => (n, 0)
  | c :: cs =>
    let next := 10 * n + (c.toNat - '0'.toNat)
    if maxSignificand < next then (n, 0)
    else
      let (result, taken) := takeDigits next cs
      (result, taken + 1)

/-- The power of ten as a floating point number. -/
def powerOfTen (n : Nat) : Binary64 := .ofDecimal false 1 n

/-- Divide by a power of ten, in steps of at most `10 ^ 308`. -/
def divide : Nat → Binary64 → Nat → Binary64
  | 0, x, _ => x
  | fuel + 1, x, n =>
    if n ≤ 308 then x.div (powerOfTen n)
    else if x.isZero then x
    else divide fuel (x.div (powerOfTen 308)) (n - 308)

/-- Digits times a power of ten. -/
def scale? (digits : Nat) (exponent : Int) : Option Binary64 :=
  let x := Binary64.ofRatio false digits 1
  if exponent < 0 then some (divide 4 x (-exponent).toNat)
  else if 308 < exponent then (if x.isZero then some x else none)
  else
    let product := x.mul (powerOfTen exponent.toNat)
    if product.isInfinite then none else some product

/-- The floating point number without its sign. -/
def magnitude? (n : NumberText) : Option Binary64 :=
  let (first, taken) := takeDigits 0 n.whole
  let (digits, places) := takeDigits first n.fraction
  let exponent : Int := (n.whole.length - taken : Nat) - (places : Int)
  match n.exponent with
  | none => scale? digits exponent
  | some (negative, ds) =>
    let e := Binary64.ofDigits ds
    if maxExponent < e then
      if digits ≠ 0 && !negative then none else some (.ofMagnitude false 0)
    else scale? digits (if negative then exponent - e else exponent + e)

/-- Whether a number is written without point and exponent. -/
def isPlain (n : NumberText) : Bool := n.fraction.isEmpty && n.exponent.isNone

/-- The whole number, if the number is written as one that 64 bits hold. -/
def whole? (n : NumberText) : Option Int :=
  let m := Binary64.ofDigits n.whole
  if !n.isPlain then none
  else if n.negative then (if m = 0 || Nat.pow 2 63 < m then none else some (-(m : Int)))
  else if maxSignificand < m then none else some m

/-- The value of a number. -/
def value? (n : NumberText) : Option Number :=
  match n.whole? with
  | some i => some (.int i)
  | none => n.magnitude?.map fun x => .float (.ofMagnitude n.negative x.magnitude)

end Stepwise.NumberText
