import Stepwise.Machine.Format.Real

/-!
# Formats

Text with escapes and directives, as `printf` and `echo` read it. A format is used again as long as
there are arguments left; a missing argument is an empty text or zero.

* `Format.unescape`: a text with its escapes replaced.
* `Format.print`: a format filled with arguments.
-/

namespace Stepwise.Machine.Format

/-! ## Escapes -/

/-- The character of a simple escape. -/
def simpleEscape? : Char → Option Char
  | '\\' => some '\\'
  | 'a' => some '\x07'
  | 'b' => some '\x08'
  | 'e' => some '\x1b'
  | 'f' => some '\x0c'
  | 'n' => some '\n'
  | 'r' => some '\r'
  | 't' => some '\t'
  | 'v' => some '\x0b'
  | _ => none

/-- Whether a character is an octal digit. -/
def isOctal (c : Char) : Bool := '0' ≤ c && c ≤ '7'

/-- The byte with a number, as far as a byte holds it. -/
def byte (n : Nat) : Char := Char.ofNat (n % 256)

/-- The character that octal digits mean, at most `limit` of them, and how many there are. -/
def octal (limit : Nat) (text : Raw) : Char × Nat :=
  let digits := (text.take limit).takeWhile isOctal
  (byte (ofDigits 8 digits), digits.length)

/-- What an escape means, given what follows the backslash: the characters, and how much was read.
In an argument, octal digits may follow a zero. -/
def escape (inArgument : Bool) (text : Raw) : Raw × Nat :=
  match text with
  | [] => (['\\'], 0)
  | c :: cs =>
    if inArgument && c = '0' then
      let (value, n) := octal 3 cs
      ([value], n + 1)
    else if isOctal c then
      let (value, n) := octal 3 text
      ([value], n)
    else match simpleEscape? c with
      | some value => ([value], 1)
      | none => (['\\'], 0)

/-- A text with its escapes replaced, and whether it asks to stop there. The number bounds its
length. -/
def unescapeFrom : Nat → Raw → Raw × Bool
  | 0, _ => ([], false)
  | _, [] => ([], false)
  | fuel + 1, '\\' :: cs =>
    if cs.head? = some 'c' then ([], true)
    else
      let (value, n) := escape true cs
      let (text, stops) := unescapeFrom fuel (cs.drop n)
      (value ++ text, stops)
  | fuel + 1, c :: cs =>
    let (text, stops) := unescapeFrom fuel cs
    (c :: text, stops)

/-- A text with its escapes replaced, and whether it asks to stop there. -/
def unescape (text : Raw) : Raw × Bool := unescapeFrom (text.length + 1) text

/-! ## Filling a format -/

/-- A directive that a format cannot have, as it is written. -/
inductive BadDirective where
  /-- The format ends before the directive does. -/
  | unfinished (text : Raw)
  | unknown (text : Raw)

/-- A format as far as it has been filled. -/
structure Filled where
  output : Raw := []
  /-- What is wrong with arguments, in their order. -/
  faults : List (Raw × NumberFault) := []
  arguments : List Raw
  /-- Whether an argument was asked for. -/
  asked : Bool := false
  /-- Whether an argument says to stop. -/
  stops : Bool := false
  /-- What is wrong with the format, if something is. -/
  broken : Option BadDirective := none

namespace Filled

def put (f : Filled) (text : Raw) : Filled := { f with output := f.output ++ text }

/-- The next argument. -/
def next (f : Filled) : Filled × Raw :=
  ({ f with arguments := f.arguments.drop 1, asked := true }, f.arguments.headD [])

/-- The next argument, read as a number of some kind. -/
def nextValue {α : Type} (f : Filled) (read : Raw → α × Option NumberFault) : Filled × α :=
  let (f, text) := f.next
  let (value, fault) := read text
  match fault with
  | none => (f, value)
  | some fault => ({ f with faults := f.faults ++ [(text, fault)] }, value)

/-- A number in the text of a directive, or the next argument for `*`. -/
def readCount (f : Filled) (text : Raw) : Filled × Option Int × Raw :=
  match text with
  | '*' :: rest =>
    let (f, n) := f.nextValue (number .signed)
    (f, some n, rest)
  | _ =>
    let digits := text.takeWhile Char.isDigit
    (f, (Raw.toNat? digits).map Int.ofNat, text.drop digits.length)

/-- Fill in the conversion of a directive. -/
def convert (f : Filled) (d : Directive) (c : Char) : Option Filled :=
  let whole (range : Range) (set : Int → Raw) : Option Filled :=
    let (f, n) := f.nextValue (number range)
    some (f.put (set n))
  let fractional (set : Directive → Binary64 → Raw) : Option Filled :=
    let (f, x) := f.nextValue real
    some (f.put (set d x))
  match c with
  | 'd' | 'i' => whole .signed (setSigned d)
  | 'u' => whole .unsigned (setUnsigned d 10 false)
  | 'o' => whole .unsigned (setUnsigned d 8 false)
  | 'x' => whole .unsigned (setUnsigned d 16 false)
  | 'X' => whole .unsigned (setUnsigned d 16 true)
  | 's' =>
    let (f, text) := f.next
    some (f.put (setText d text))
  | 'c' =>
    let (f, text) := f.next
    some (f.put (setText d (text.take 1)))
  | 'b' =>
    let (f, text) := f.next
    let (text, stops) := unescape text
    some { f.put (setText d text) with stops }
  | 'f' => fractional (setFixed false)
  | 'F' => fractional (setFixed true)
  | 'e' => fractional (setScientific false)
  | 'E' => fractional (setScientific true)
  | 'g' => fractional (setGeneral false)
  | 'G' => fractional (setGeneral true)
  | _ => none

/-- Fill in a directive; beside it comes what is left of the format. -/
def directive (f : Filled) (text : Raw) : Filled × Raw :=
  let (d, rest) := Directive.readFlags {} text
  let (f, width, rest) := f.readCount rest
  let d := match width with
    | some n => { d with width := n.natAbs, left := d.left || n < 0 }
    | none => d
  let (f, d, rest) := match rest with
    | '.' :: rest =>
      let (f, precision, rest) := f.readCount rest
      (f, { d with precision := some (precision.getD 0).toNat }, rest)
    | rest => (f, d, rest)
  match rest with
  | [] => ({ f with broken := some (.unfinished ('%' :: text)) }, [])
  | c :: rest => match f.convert d c with
    | some f => (f, rest)
    | none =>
      ({ f with broken := some (.unknown ('%' :: text.take (text.length - rest.length))) }, [])

/-- Go through a format once. The number bounds its length. -/
def once (f : Filled) : Nat → Raw → Filled
  | 0, _ => f
  | _, [] => f
  | fuel + 1, c :: cs =>
    if f.stops || f.broken.isSome then f
    else match c, cs with
      | '%', '%' :: rest => (f.put ['%']).once fuel rest
      | '%', cs =>
        let (f, rest) := f.directive cs
        f.once fuel rest
      | '\\', cs =>
        let (value, n) := escape false cs
        (f.put value).once fuel (cs.drop n)
      | c, cs => (f.put [c]).once fuel cs

/-- Go through a format until all arguments are used. The number bounds how often. -/
def again (format : Raw) : Nat → Filled → Filled
  | 0, f => f
  | fuel + 1, f =>
    let f := { f with asked := false }.once (format.length + 1) format
    if f.stops || f.broken.isSome || !f.asked || f.arguments.isEmpty then f else again format fuel f

end Filled

/-- A format filled with arguments. -/
def print (format : Raw) (arguments : List Raw) : Filled :=
  Filled.again format (arguments.length + 1) { arguments }

end Stepwise.Machine.Format
