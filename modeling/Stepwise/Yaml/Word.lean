import Stepwise.Value.Basic

/-!
# The meaning of plain words

A plain scalar may stand for null, a bool or a number; any other word is a text.

* Null is `~`, `null`, `Null` or `NULL`; bools are `true`, `True`, `TRUE` and the same for `false`.
* A whole number is decimal without leading zeros, or follows `0x`, `0o` or `0b`. It may have a
  sign.
* A floating point number has a point or an exponent, or is `.inf`, `-.inf` or `.nan` with one of
  three spellings each. A decimal too large for a floating point number is a text.
-/

namespace Stepwise.Yaml

/-- Whether a word stands for null. -/
def isNullWord (word : String) : Bool :=
  word ∈ ["~", "null", "Null", "NULL"]

/-- The bool that a word stands for. -/
def boolOfWord? (word : String) : Option Bool :=
  if word ∈ ["true", "True", "TRUE"] then some true
  else if word ∈ ["false", "False", "FALSE"] then some false
  else none

/-- The value of a digit in the bases up to sixteen. -/
def digitValue? (c : Char) : Option Nat :=
  if c.isDigit then some (c.toNat - '0'.toNat)
  else if 'a' ≤ c && c ≤ 'f' then some (c.toNat - 'a'.toNat + 10)
  else if 'A' ≤ c && c ≤ 'F' then some (c.toNat - 'A'.toNat + 10)
  else none

/-- The whole number that digits of a base denote; there has to be a digit. -/
def natOfDigits? (base : Nat) : List Char → Option Nat
  | [] => none
  | cs => cs.foldlM (fun n c => (digitValue? c).bind fun d =>
      if d < base then some (n * base + d) else none) 0

/-- The base that a letter after a zero stands for. -/
def baseOf? : Char → Option Nat
  | 'x' => some 16
  | 'o' => some 8
  | 'b' => some 2
  | _ => none

/-- Whether digits have a zero in front that does not count. -/
def hasLeadingZero : List Char → Bool
  | '0' :: c :: cs => (c :: cs).all Char.isDigit
  | _ => false

/-- The number of an unsigned word. -/
def magnitude? (cs : List Char) : Option Nat :=
  let prefixed := match cs with
    | '0' :: b :: ds => (baseOf? b).bind (natOfDigits? · ds)
    | _ => none
  match prefixed with
  | some n => some n
  | none => if hasLeadingZero cs then none else natOfDigits? 10 cs

/-- The whole number of a word without a minus. -/
def natOfWord? (word : String) : Option Nat :=
  match word.toList with
  | '+' :: cs => magnitude? cs
  | cs => magnitude? cs

/-- The whole number of a word. -/
def intOfWord? (word : String) : Option Int :=
  match word.toList with
  | '-' :: cs => (magnitude? cs).map fun n => -(n : Int)
  | _ => (natOfWord? word).map Int.ofNat

/-- The numbers that a value can hold. -/
def fitsValue (n : Int) : Bool := -(Nat.pow 2 63) ≤ n && n < Nat.pow 2 64

/-- The numbers that a word can denote without being taken for a floating point number. -/
def fitsWord (n : Int) : Bool := -(Nat.pow 2 127) ≤ n && n < Nat.pow 2 128

/-- The word without a plus, unless another sign follows it. -/
def dropPlus (word : List Char) : Option (List Char) :=
  match word with
  | '+' :: c :: cs => if c = '+' || c = '-' then none else some (c :: cs)
  | '+' :: [] => some []
  | cs => some cs

/-- The floating point number of a word. -/
def floatOfWord? (word : String) : Option Binary64 :=
  (dropPlus word.toList).bind fun cs =>
    let unsigned := String.ofList cs
    if unsigned ∈ [".inf", ".Inf", ".INF"] then some (.infinity false)
    else if word ∈ ["-.inf", "-.Inf", "-.INF"] then some (.infinity true)
    else if word ∈ [".nan", ".NaN", ".NAN"] then some .nan
    else (Binary64.ofText? unsigned).filter Binary64.isFinite

/-- What a word that should be a whole number stands for: `none` if it is no whole number at all,
and nothing if it is one that no value can hold. -/
def wholeOfWord? (word : String) : Option (Option Number) :=
  match intOfWord? word with
  | some n => if fitsValue n then some (some (.int n)) else if fitsWord n then some none else none
  | none => none

/-- Whether a word is digits with a zero in front, perhaps after a sign. -/
def isPaddedNumber (word : String) : Bool :=
  match word.toList with
  | '-' :: cs | '+' :: cs => hasLeadingZero cs
  | cs => hasLeadingZero cs

/-- The value of a plain word, if a value can hold it. -/
def valueOfWord? (word : String) : Option Value :=
  if word = "" || isNullWord word then some .null
  else match boolOfWord? word with
    | some b => some (.bool b)
    | none => match wholeOfWord? word with
      | some found => found.map .number
      | none =>
        if isPaddedNumber word then some (.text word)
        else match floatOfWord? word with
          | some x => some (.number (.float x))
          | none => some (.text word)

end Stepwise.Yaml
