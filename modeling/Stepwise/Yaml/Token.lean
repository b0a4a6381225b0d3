/-!
# Tokens of a YAML document

A document is a list of tokens: indicators, scalars with their style, properties of nodes, and the
starts and ends of blocks that the indentation of its lines implies.
-/

namespace Stepwise.Yaml

/-- How a scalar is written. -/
inductive Style where
  | plain
  | singleQuoted
  | doubleQuoted
  | literal
  | folded
  deriving DecidableEq

/-- A token of a document. -/
inductive Token where
  | versionDirective (major minor : Nat)
  | tagDirective (handle uri : String)
  | documentStart
  | documentEnd
  | blockSequenceStart
  | blockMappingStart
  | blockEnd
  | flowSequenceStart
  | flowSequenceEnd
  | flowMappingStart
  | flowMappingEnd
  | blockEntry
  | flowEntry
  | key
  | value
  | alias (name : String)
  | anchor (name : String)
  | tag (handle suffix : String)
  | scalar (text : String) (style : Style)
  | streamEnd
  deriving DecidableEq

/-! ## Characters -/

/-- Whether a character ends a line. -/
def isBreak (c : Char) : Bool :=
  c ∈ ['\n', '\r', '\u0085', '\u2028', '\u2029']

/-- Whether a character separates words of a line. -/
def isSpace (c : Char) : Bool := c = ' ' || c = '\t'

/-- Whether a word ends here: before white space, a line break or the end of the text. -/
def endsWord : Option Char → Bool
  | none => true
  | some c => isSpace c || isBreak c

/-- Whether a line ends here. -/
def endsLine : Option Char → Bool
  | none => true
  | some c => isBreak c

/-- Whether a character may be part of a name. -/
def isNameChar (c : Char) : Bool := c.isAlphanum || c = '_' || c = '-'

/-- The byte order mark. -/
def byteOrderMark : Char := '\uFEFF'

/-- Whether a document may hold a character at all. -/
def isAllowed (c : Char) : Bool :=
  let n := c.toNat
  n = 0x9 || n = 0xA || n = 0xD || (0x20 ≤ n && n ≤ 0x7E) || n = 0x85 ||
    (0xA0 ≤ n && n ≤ 0xD7FF) || (0xE000 ≤ n && n ≤ 0xFFFD) || 0x10000 ≤ n

/-! ## Places in a text -/

/-- A place in a text: what is left to read, how much has been read, and the line and column. -/
structure Place where
  rest : List Char
  index : Nat := 0
  line : Nat := 0
  column : Nat := 0

namespace Place

/-- The character `n` places ahead. -/
def ahead (p : Place) (n : Nat) : Option Char := p.rest[n]?

/-- The next character. -/
def next (p : Place) : Option Char := p.rest.head?

/-- Whether the next character is `c`. -/
def sees (p : Place) (c : Char) : Bool := p.next = some c

/-- Go on by `n` characters of the line. -/
def skip (p : Place) (n : Nat) : Place :=
  { p with rest := p.rest.drop n, index := p.index + n, column := p.column + n }

/-- The characters of the line that satisfy `test`, and the place after them. -/
def span (p : Place) (test : Char → Bool) : List Char × Place :=
  let taken := p.rest.takeWhile test
  (taken, p.skip taken.length)

/-- The place at the start of the next line, `n` characters ahead. -/
def newLine (p : Place) (n : Nat) : Place :=
  { rest := p.rest.drop n, index := p.index + n, line := p.line + 1, column := 0 }

/-- Read a line break, if there is one: what it stands for, and the place after it. -/
def readBreak (p : Place) : List Char × Place :=
  match p.rest with
  | '\r' :: '\n' :: _ => (['\n'], p.newLine 2)
  | c :: _ =>
    if c = '\u2028' || c = '\u2029' then ([c], p.newLine 1)
    else if isBreak c then (['\n'], p.newLine 1)
    else ([], p)
  | [] => ([], p)

/-- Whether a line begins here with one of the two document marks. -/
def atMark (p : Place) (mark : Char) : Bool :=
  p.column = 0 && p.rest.take 3 = [mark, mark, mark] && endsWord (p.ahead 3)

/-- Whether a line begins here with a document mark. -/
def atDocumentMark (p : Place) : Bool := p.atMark '-' || p.atMark '.'

end Place

end Stepwise.Yaml
