/-!
# Binary floating point numbers

A number of a declaration may be a 64-bit binary floating point number. It is kept by its bits, and
all arithmetic on it is exact arithmetic on natural numbers followed by one rounding.

* A finite number is `significand * 2 ^ exponent`, up to its sign.
* `Binary64.ofRatio` rounds a quotient to the nearest number, a tie to the even significand.
-/

namespace Stepwise

/-- A 64-bit binary floating point number, by its bits. -/
structure Binary64 where
  bits : UInt64
  deriving DecidableEq, Inhabited

namespace Binary64

/-- The value of the bit that holds the sign. -/
def signBit : Nat := Nat.pow 2 63

/-- The value of the lowest bit of the exponent field. It is also the bit that every significand has
but that of a subnormal number, and that is not kept. -/
def hiddenBit : Nat := Nat.pow 2 52

/-- The bits below the sign. -/
def magnitude (x : Binary64) : Nat := x.bits.toNat % signBit

def isNegative (x : Binary64) : Bool := signBit ≤ x.bits.toNat

/-- The bits of positive infinity. -/
def infinityBits : Nat := 0x7FF * hiddenBit

def isNaN (x : Binary64) : Bool := infinityBits < x.magnitude

def isInfinite (x : Binary64) : Bool := x.magnitude = infinityBits

def isFinite (x : Binary64) : Bool := x.magnitude < infinityBits

def isZero (x : Binary64) : Bool := x.magnitude = 0

/-- A number from its sign and the bits below it. -/
def ofMagnitude (negative : Bool) (magnitude : Nat) : Binary64 :=
  ⟨UInt64.ofNat (if negative then signBit + magnitude else magnitude)⟩

def infinity (negative : Bool) : Binary64 := ofMagnitude negative infinityBits

def nan : Binary64 := ofMagnitude false (infinityBits + Nat.pow 2 51)

/-- The exponent field: 0 for zero and the subnormal numbers. -/
def exponentField (x : Binary64) : Nat := x.magnitude / hiddenBit

/-- The significand of a finite number as a whole number. -/
def significand (x : Binary64) : Nat :=
  if x.exponentField = 0 then x.magnitude else x.magnitude % hiddenBit + hiddenBit

/-- The power of two that a finite number's significand is multiplied by. -/
def exponent (x : Binary64) : Int :=
  if x.exponentField = 0 then -1074 else x.exponentField - 1075

/-- Whether two numbers are the same key: zeros are, whatever their sign, and so are all numbers
that are not a number. -/
def same (x y : Binary64) : Bool :=
  x.bits = y.bits || (x.isNaN && y.isNaN) || (x.isZero && y.isZero)

/-- `num / den` to the nearest whole number, a tie to the even one. -/
def roundDiv (num den : Nat) : Nat :=
  let q := num / den
  let twice := 2 * (num % den)
  if twice < den then q else if den < twice then q + 1 else q + q % 2

/-- The quotient `num / den`, scaled by `2 ^ (-e)` and rounded. -/
def scaledDiv (num den : Nat) (e : Int) : Nat :=
  if 0 ≤ e then roundDiv num (den * Nat.pow 2 e.toNat)
  else roundDiv (num * Nat.pow 2 (-e).toNat) den

/-- The exponent that gives `num / den` a significand of 53 bits, but at least that of the
subnormal numbers. -/
def ratioExponent (num den : Nat) : Int :=
  let e : Int := Nat.log2 num - Nat.log2 den - 52
  let full :=
    if 0 ≤ e then hiddenBit * (den * Nat.pow 2 e.toNat) ≤ num
    else hiddenBit * den ≤ num * Nat.pow 2 (-e).toNat
  max (if full then e else e - 1) (-1074)

/-- The number nearest to `num / den`; an infinity where that is too large. A significand that
rounds up to 54 bits carries into the exponent field by itself. -/
def ofRatio (negative : Bool) (num den : Nat) : Binary64 :=
  if num = 0 then ofMagnitude negative 0
  else
    let e := ratioExponent num den
    let magnitude := (e + 1074).toNat * hiddenBit + scaledDiv num den e
    ofMagnitude negative (min magnitude infinityBits)

/-- The number nearest to `digits * 10 ^ exponent`. Far outside the range of finite numbers the
power of ten is not computed. -/
def ofDecimal (negative : Bool) (digits : Nat) (exponent : Int) : Binary64 :=
  let size : Int := (Nat.toDigits 10 digits).length + exponent
  if digits = 0 || size < -400 then ofMagnitude negative 0
  else if 400 < size then infinity negative
  else if 0 ≤ exponent then ofRatio negative (digits * Nat.pow 10 exponent.toNat) 1
  else ofRatio negative digits (Nat.pow 10 (-exponent).toNat)

/-- The value of a finite number without its sign, as a quotient. -/
def ratio (x : Binary64) : Nat × Nat :=
  if 0 ≤ x.exponent then (x.significand * Nat.pow 2 x.exponent.toNat, 1)
  else (x.significand, Nat.pow 2 (-x.exponent).toNat)

/-- The product of two finite numbers, rounded. -/
def mul (x y : Binary64) : Binary64 :=
  ofRatio (x.isNegative != y.isNegative) (x.ratio.1 * y.ratio.1) (x.ratio.2 * y.ratio.2)

/-- The quotient of two finite numbers of which the second is not zero, rounded. -/
def div (x y : Binary64) : Binary64 :=
  ofRatio (x.isNegative != y.isNegative) (x.ratio.1 * y.ratio.2) (x.ratio.2 * y.ratio.1)

end Binary64

end Stepwise
