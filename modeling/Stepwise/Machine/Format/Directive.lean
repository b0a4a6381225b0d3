import Stepwise.Machine.Raw

/-!
# Directives

The numbers that arguments of a format write, and how a directive of a format sets a value: its
width, its places, its sign and the side it stands on.

* `Format.number`: the number at the beginning of a text, and what is wrong with it.
* `Format.setText`, `Format.setSigned`, `Format.setUnsigned`: a value set by a directive.
-/

namespace Stepwise.Machine.Format

/-! ## Numbers -/

/-- The value of a digit in any base up to 36. -/
def digitValue (c : Char) : Nat :=
  if c.isDigit then c.toNat - '0'.toNat
  else if c.isLower then c.toNat - 'a'.toNat + 10
  else if c.isUpper then c.toNat - 'A'.toNat + 10
  else 36

/-- The number that digits write in a base. -/
def ofDigits (base : Nat) (digits : Raw) : Nat :=
  digits.foldl (fun n c => base * n + digitValue c) 0

/-- The base of a number by its beginning, and its digits with what follows. -/
def baseOf : Raw → Nat × Raw
  | '0' :: 'x' :: cs | '0' :: 'X' :: cs =>
    if cs.head?.any (digitValue · < 16) then (16, cs) else (8, '0' :: 'x' :: cs)
  | '0' :: cs => (8, '0' :: cs)
  | cs => (10, cs)

/-- What is wrong with a text that should be a number: it is none, there is more behind the number,
or the number is too large. -/
inductive NumberFault where
  | notNumber
  | partly
  | outOfRange
  deriving DecidableEq

/-- Whole numbers that a directive can set: words of 64 bits with a sign, or without one. -/
structure Range where
  lower : Int
  upper : Int
  /-- What a number that is too small becomes. -/
  floor : Int

def Range.signed : Range :=
  { lower := -(Nat.pow 2 63), upper := Nat.pow 2 63 - 1, floor := -(Nat.pow 2 63) }

def Range.unsigned : Range :=
  { lower := -(Nat.pow 2 64 - 1), upper := Nat.pow 2 64 - 1, floor := Nat.pow 2 64 - 1 }

/-- The number at the beginning of a text, as far as there is one. -/
def number (range : Range) (text : Raw) : Int × Option NumberFault :=
  match text with
  | '\'' :: c :: _ | '"' :: c :: _ => (c.toNat, none)
  | _ =>
    let text := text.dropWhile Raw.isSpace
    let (sign, unsigned) : Int × Raw := match text with
      | '-' :: cs => (-1, cs)
      | '+' :: cs => (1, cs)
      | cs => (1, cs)
    let (base, digits) := baseOf unsigned
    let taken := digits.takeWhile (digitValue · < base)
    let fault := if taken.length = digits.length then if taken.isEmpty && !text.isEmpty then
        some .notNumber else none
      else if taken.isEmpty then some .notNumber else some .partly
    let n := sign * (ofDigits base taken : Int)
    if range.upper < n then (range.upper, some (fault.getD .outOfRange))
    else if n < range.lower then (range.floor, some (fault.getD .outOfRange))
    else (n, fault)

/-! ## Directives -/

/-- A directive: how a value is set. -/
structure Directive where
  left : Bool := false
  zeros : Bool := false
  plus : Bool := false
  space : Bool := false
  alternate : Bool := false
  width : Nat := 0
  precision : Option Nat := none

/-- The directive with a flag, if the character is one. -/
def Directive.withFlag? (d : Directive) : Char → Option Directive
  | '-' => some { d with left := true }
  | '0' => some { d with zeros := true }
  | '+' => some { d with plus := true }
  | ' ' => some { d with space := true }
  | '#' => some { d with alternate := true }
  | _ => none

/-- Read the flags of a directive. -/
def Directive.readFlags (d : Directive) : Raw → Directive × Raw
  | [] => (d, [])
  | c :: cs => match d.withFlag? c with
    | some d => d.readFlags cs
    | none => (d, c :: cs)

/-- Blanks, or zeros, that fill a text of some length up to the width. -/
def fill (d : Directive) (length : Nat) (c : Char) : Raw := List.replicate (d.width - length) c

/-- A text set by a directive. -/
def setText (d : Directive) (text : Raw) : Raw :=
  let text := match d.precision with
    | some n => text.take n
    | none => text
  if d.left then text ++ fill d text.length ' ' else fill d text.length ' ' ++ text

/-- Digits with a sign or a mark in front, set by a directive. -/
def setDigits (d : Directive) (mark digits : Raw) : Raw :=
  let digits := match d.precision with
    | some n => List.replicate (n - digits.length) '0' ++ digits
    | none => digits
  let length := mark.length + digits.length
  if d.left then mark ++ digits ++ fill d length ' '
  else if d.zeros && d.precision.isNone then mark ++ fill d length '0' ++ digits
  else fill d length ' ' ++ mark ++ digits

/-- A number with a sign, set by a directive. -/
def setSigned (d : Directive) (n : Int) : Raw :=
  let mark : Raw := if n < 0 then ['-'] else if d.plus then ['+'] else if d.space then [' '] else []
  setDigits d mark (Raw.ofNat n.natAbs)

/-- A number without a sign in a base, set by a directive. Negative numbers are taken as words of 64
bits. -/
def setUnsigned (d : Directive) (base : Nat) (capitals : Bool) (n : Int) : Raw :=
  let n := (n % (Nat.pow 2 64 : Int)).toNat
  let digits := Nat.toDigits base n
  let mark : Raw := if d.alternate && base = 16 && n ≠ 0 then ['0', 'x']
    else if d.alternate && base = 8 && n ≠ 0 then ['0'] else []
  let up (text : Raw) : Raw := if capitals then text.map Char.toUpper else text
  setDigits d (up mark) (up digits)

end Stepwise.Machine.Format
