import Stepwise.Decimal.Binary64
import Stepwise.Machine.Format.Directive

/-!
# Real numbers in a format

A real number of an argument is the floating point number nearest to what is written; a directive
sets it with a fixed number of places, with an exponent, or in the shorter of both ways.

* `Format.real`: the number at the beginning of a text, and what is wrong with it.
* `Format.setFixed`, `Format.setScientific`, `Format.setGeneral`: the three ways.
-/

namespace Stepwise.Machine.Format

/-! ## Reading -/

/-- The exponent after a letter, and how long it is with the letter; zero if there is none. -/
def exponentPart (letter : Char) : Raw → Int × Nat
  | c :: cs =>
    let (sign, digits, length) : Int × Raw × Nat := match cs with
      | '-' :: cs => (-1, cs, 2)
      | '+' :: cs => (1, cs, 2)
      | cs => (1, cs, 1)
    let digits := digits.takeWhile Char.isDigit
    if c.toLower = letter && !digits.isEmpty then
      (sign * (ofDigits 10 digits : Int), digits.length + length)
    else (0, 0)
  | [] => (0, 0)

/-- Digits with a point: their number, how many stand behind the point, and their length. -/
def pointed (base : Nat) (text : Raw) : Nat × Nat × Nat :=
  let isDigit (c : Char) : Bool := digitValue c < base
  let whole := text.takeWhile isDigit
  let (behind, point) : Raw × Nat := match text.drop whole.length with
    | '.' :: cs => (cs.takeWhile isDigit, 1)
    | _ => ([], 0)
  let digits := whole ++ behind
  (ofDigits base digits, behind.length, if digits.isEmpty then 0 else digits.length + point)

/-- The number in base 16 that a text after `0x` begins with, and its length. -/
def realOfBase16 (negative : Bool) (text : Raw) : Binary64 × Nat :=
  let (digits, places, length) := pointed 16 text
  let (exponent, more) := exponentPart 'p' (text.drop length)
  let power := max (-2000) (min 2000 exponent) - 4 * (places : Int)
  let number := if 0 ≤ power then Binary64.ofRatio negative (digits * Nat.pow 2 power.toNat) 1
    else Binary64.ofRatio negative digits (Nat.pow 2 (-power).toNat)
  (number, length + more)

/-- The number without a sign that a text begins with, and its length; the length is zero if there
is none. -/
def unsignedReal (negative : Bool) (text : Raw) : Binary64 × Nat :=
  let lower := text.map Char.toLower
  if (Raw.ofString "infinity").isPrefixOf lower then (Binary64.infinity negative, 8)
  else if (Raw.ofString "inf").isPrefixOf lower then (Binary64.infinity negative, 3)
  else if (Raw.ofString "nan").isPrefixOf lower then
    (Binary64.ofMagnitude negative Binary64.nan.magnitude, 3)
  else
    let (number, length) := if (Raw.ofString "0x").isPrefixOf lower then
        realOfBase16 negative (lower.drop 2) else (default, 0)
    if length ≠ 0 then (number, length + 2)
    else
      let (digits, places, length) := pointed 10 text
      if length = 0 then (Binary64.ofMagnitude false 0, 0)
      else
        let (exponent, more) := exponentPart 'e' (text.drop length)
        (Binary64.ofDecimal negative digits (exponent - (places : Int)), length + more)

/-- The real number at the beginning of a text, and what is wrong with the text. -/
def real (text : Raw) : Binary64 × Option NumberFault :=
  match text with
  | '\'' :: c :: _ | '"' :: c :: _ => (Binary64.ofRatio false c.toNat 1, none)
  | _ =>
    let trimmed := text.dropWhile Raw.isSpace
    let (negative, unsigned) : Bool × Raw := match trimmed with
      | '-' :: cs => (true, cs)
      | '+' :: cs => (false, cs)
      | cs => (false, cs)
    let (number, length) := unsignedReal negative unsigned
    let fault := if length = 0 then if text.isEmpty then none else some .notNumber
      else if length < unsigned.length then some .partly
      else if number.isInfinite && unsigned.any Char.isDigit then some .outOfRange
      else none
    (number, fault)

/-! ## Setting -/

/-- The sign in front of a real number. -/
def signMark (d : Directive) (negative : Bool) : Raw :=
  if negative then ['-'] else if d.plus then ['+'] else if d.space then [' '] else []

/-- The quotient `num * 10 ^ power / den` to the nearest whole number, a tie to the even one. -/
def scaled (num den : Nat) (power : Int) : Nat :=
  if 0 ≤ power then Binary64.roundDiv (num * Nat.pow 10 power.toNat) den
  else Binary64.roundDiv num (den * Nat.pow 10 (-power).toNat)

/-- Digits with a point in front of the last `places` ones. -/
def withPoint (alternate : Bool) (places digits : Nat) : Raw :=
  let behind := Raw.ofNat (digits % Nat.pow 10 places)
  let point : Raw := if places = 0 then if alternate then ['.'] else []
    else '.' :: List.replicate (places - behind.length) '0' ++ behind
  Raw.ofNat (digits / Nat.pow 10 places) ++ point

/-- A quotient with a fixed number of places. -/
def fixedText (alternate : Bool) (places num den : Nat) : Raw :=
  withPoint alternate places (scaled num den places)

/-- The decimal exponent of a quotient when one digit stands before the point and `places` after it,
and the digits. -/
def scientificDigits (places num den : Nat) : Int × Nat :=
  if num = 0 then (0, 0)
  else
    let guess : Int := (Nat.toDigits 10 num).length - (Nat.toDigits 10 den).length
    let enough := if 0 ≤ guess then den * Nat.pow 10 guess.toNat ≤ num
      else den ≤ num * Nat.pow 10 (-guess).toNat
    let exponent := if enough then guess else guess - 1
    let digits := scaled num den ((places : Int) - exponent)
    if digits = Nat.pow 10 (places + 1) then (exponent + 1, Nat.pow 10 places)
    else (exponent, digits)

/-- An exponent with its sign and at least two digits. -/
def exponentText (exponent : Int) : Raw :=
  let digits := Raw.ofNat exponent.natAbs
  'e' :: (if exponent < 0 then '-' else '+') :: List.replicate (2 - digits.length) '0' ++ digits

/-- A quotient with one digit before the point and an exponent. -/
def scientificText (alternate : Bool) (places num den : Nat) : Raw :=
  let (exponent, digits) := scientificDigits places num den
  withPoint alternate places digits ++ exponentText exponent

/-- A text without the zeros that end it behind a point. -/
def dropEndZeros (text : Raw) : Raw :=
  if text.contains '.' then
    let kept := (text.reverse.dropWhile (· = '0'))
    (if kept.head? = some '.' then kept.drop 1 else kept).reverse
  else text

/-- A quotient in the shorter way: with an exponent if that is below -4 or too large for the
digits. -/
def generalText (alternate : Bool) (places num den : Nat) : Raw :=
  let size := max 1 places
  let (exponent, digits) := scientificDigits (size - 1) num den
  let trim (text : Raw) : Raw := if alternate then text else dropEndZeros text
  if exponent < -4 || (size : Int) ≤ exponent then
    trim (withPoint alternate (size - 1) digits) ++ exponentText exponent
  else trim (fixedText alternate ((size : Int) - 1 - exponent).toNat num den)

/-- A real number set by a directive in a way that is given for quotients; `capitals` says whether
letters are capitals. -/
def setReal (way : Bool → Nat → Nat → Nat → Raw) (capitals : Bool) (d : Directive)
    (x : Binary64) : Raw :=
  let up (text : Raw) : Raw := if capitals then text.map Char.toUpper else text
  let mark := signMark d x.isNegative
  if x.isFinite then
    let (num, den) := x.ratio
    setDigits { d with precision := none } mark (up (way d.alternate (d.precision.getD 6) num den))
  else
    setDigits { d with precision := none, zeros := false } mark
      (up (Raw.ofString (if x.isNaN then "nan" else "inf")))

def setFixed := setReal fixedText

def setScientific := setReal scientificText

def setGeneral := setReal generalText

end Stepwise.Machine.Format
