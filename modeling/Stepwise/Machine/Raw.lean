import Stepwise.Text.Utf8

/-!
# Bytes as characters

Scripts, words and lines are byte strings. Here each byte is a character with the byte's number, so
that what is done with them reads like what is done with text.
-/

namespace Stepwise.Machine

/-- A byte string with one character for each byte. -/
abbrev Raw := List Char

namespace Raw

/-- The character of a byte. -/
def ofByte (b : UInt8) : Char := Char.ofNat b.toNat

def ofBytes (bytes : Bytes) : Raw := bytes.map ofByte

def toBytes (raw : Raw) : Bytes := raw.map fun c => UInt8.ofNat c.toNat

/-- The bytes of a text. -/
def ofString (s : String) : Raw := ofBytes (Utf8.encode s)

/-- A number in decimal digits. -/
def ofNat (n : Nat) : Raw := Nat.toDigits 10 n

def ofInt (n : Int) : Raw := if n < 0 then '-' :: ofNat n.natAbs else ofNat n.natAbs

/-- The number of decimal digits; there has to be a digit. -/
def toNat? (raw : Raw) : Option Nat :=
  if raw.isEmpty || !raw.all Char.isDigit then none
  else some (raw.foldl (fun n c => 10 * n + (c.toNat - '0'.toNat)) 0)

/-- The number of decimal digits after an optional sign. -/
def toInt? : Raw → Option Int
  | '-' :: cs => (toNat? cs).map fun n => -(n : Int)
  | '+' :: cs => (toNat? cs).map Int.ofNat
  | cs => (toNat? cs).map Int.ofNat

/-- The pieces between separators. -/
def splitOn (separator : Char) : Raw → List Raw
  | [] => [[]]
  | c :: cs => match splitOn separator cs with
    | piece :: pieces => if c = separator then [] :: piece :: pieces else (c :: piece) :: pieces
    | [] => [[c]]

/-- Pieces with a separator between them. -/
def join (separator : Raw) : List Raw → Raw
  | [] => []
  | [piece] => piece
  | piece :: pieces => piece ++ separator ++ join separator pieces

/-- Whether a character ends a line or separates words. -/
def isSpace (c : Char) : Bool :=
  c = ' ' || c = '\t' || c = '\n' || c = '\r' || c = '\x0b' || c = '\x0c'

/-- The lines of a byte string, without their ends. The end of the text ends the last line too. -/
def lines (raw : Raw) : List Raw :=
  let pieces := splitOn '\n' raw
  if pieces.getLast? = some [] then pieces.dropLast else pieces

/-- Lines, each with its end. -/
def unlines (lines : List Raw) : Raw := lines.flatMap (· ++ ['\n'])

/-- The order of bytes. -/
def le (a b : Raw) : Bool := !decide (b < a)

/-- Whether a character can begin a name. -/
def isNameStart (c : Char) : Bool := c.isAlpha || c = '_'

/-- Whether a character can be part of a name. -/
def isNameChar (c : Char) : Bool := c.isAlphanum || c = '_'

/-- Whether a word is a name of a variable. -/
def isName : Raw → Bool
  | [] => false
  | c :: cs => isNameStart c && cs.all isNameChar

end Raw

end Stepwise.Machine
