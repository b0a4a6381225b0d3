import Stepwise.Text.Utf8
import Stepwise.Yaml.Token

/-!
# Scalars of a YAML document

A scalar is a text. Plain and quoted scalars may go on over several lines: a line break inside them
becomes a space, and each further one stays. A literal block keeps its line breaks, a folded one
joins lines that begin with a word.

Each reader goes from a place to the scalar's text and the place after it; `none` means that the
text is no scalar. The argument `fuel` bounds the number of characters.
-/

namespace Stepwise.Yaml

/-- What separates two words of a scalar. -/
structure Gap where
  /-- Whether a line has ended. -/
  broken : Bool := false
  spaces : List Char := []
  /-- The first line break. -/
  first : List Char := []
  /-- The other line breaks. -/
  others : List Char := []

/-- The text that a gap stands for. -/
def Gap.text (g : Gap) : List Char :=
  if !g.broken then g.spaces
  else if g.first.head? = some '\n' then (if g.others.isEmpty then [' '] else g.others)
  else g.first ++ g.others

/-- Read white space and line breaks. After a line break no tab may come before column `indent`. -/
def readGap (indent : Int) : Nat → Place → Gap → Option (Gap × Place)
  | 0, p, g => some (g, p)
  | fuel + 1, p, g =>
    match p.next with
    | none => some (g, p)
    | some c =>
      if isSpace c then
        if g.broken && p.column < indent && c = '\t' then none
        else if g.broken then readGap indent fuel (p.skip 1) g
        else readGap indent fuel (p.skip 1) { g with spaces := g.spaces ++ [c] }
      else if isBreak c then
        let (text, p) := p.readBreak
        if g.broken then readGap indent fuel p { g with others := g.others ++ text }
        else readGap indent fuel p { g with broken := true, spaces := [], first := text }
      else some (g, p)

/-! ## Plain scalars -/

/-- The characters that end a plain scalar inside brackets. -/
def isFlowIndicator (c : Char) : Bool := c ∈ [',', '[', ']', '{', '}']

/-- Read the rest of a word of a plain scalar; the gap before it is joined to its first
character. -/
def readPlainWord (flow : Bool) : Nat → Place → List Char → Gap →
    Option (List Char × Gap × Place)
  | 0, p, text, gap => some (text, gap, p)
  | fuel + 1, p, text, gap =>
    match p.next with
    | none => some (text, gap, p)
    | some c =>
      let after := p.ahead 1
      if endsWord (some c) then some (text, gap, p)
      else if flow && c = ':' && after.any (fun d => isFlowIndicator d || d = '?') then none
      else if (c = ':' && endsWord after) || (flow && isFlowIndicator c) then some (text, gap, p)
      else readPlainWord flow fuel (p.skip 1) (text ++ gap.text ++ [c]) {}

/-- Read a plain scalar. Beside the text comes whether a line ended after it. -/
def readPlain (flow : Bool) (indent : Int) : Nat → Place → List Char → Gap →
    Option (List Char × Bool × Place)
  | 0, p, text, gap => some (text, gap.broken, p)
  | fuel + 1, p, text, gap =>
    if p.atDocumentMark || p.sees '#' then some (text, gap.broken, p)
    else match readPlainWord flow (p.rest.length + 1) p text gap with
      | none => none
      | some (text, gap, p) =>
        if p.rest.isEmpty || !endsWord p.next then some (text, gap.broken, p)
        else match readGap indent (p.rest.length + 1) p gap with
          | none => none
          | some (gap, p) =>
            if !flow && p.column < indent then some (text, gap.broken, p)
            else readPlain flow indent fuel p text gap

/-! ## Quoted scalars -/

/-- The characters that a letter after a backslash stands for. -/
def escapes : List (Char × Nat) :=
  [('0', 0x0), ('a', 0x7), ('b', 0x8), ('t', 0x9), ('\t', 0x9), ('n', 0xA), ('v', 0xB), ('f', 0xC),
   ('r', 0xD), ('e', 0x1B), (' ', 0x20), ('"', 0x22), ('/', 0x2F), ('\\', 0x5C), ('N', 0x85),
   ('_', 0xA0), ('L', 0x2028), ('P', 0x2029)]

/-- The number of hexadecimal digits after a letter. -/
def escapeWidths : List (Char × Nat) := [('x', 2), ('u', 4), ('U', 8)]

/-- The value of a hexadecimal digit. -/
def hexValue? (c : Char) : Option Nat :=
  if '0' ≤ c ∧ c ≤ '9' then some (c.toNat - '0'.toNat)
  else if 'a' ≤ c ∧ c ≤ 'f' then some (c.toNat - 'a'.toNat + 10)
  else if 'A' ≤ c ∧ c ≤ 'F' then some (c.toNat - 'A'.toNat + 10)
  else none

/-- The number that hexadecimal digits stand for. -/
def hexNumber? (cs : List Char) : Option Nat :=
  cs.foldlM (fun n c => (hexValue? c).map (16 * n + ·)) 0

/-- The character of a code point, if it is one. -/
def scalarValue? (n : Nat) : Option Char :=
  if (0xD800 ≤ n && n ≤ 0xDFFF) || 0x10FFFF < n then none else some (Char.ofNat n)

/-- Read an escape, whose backslash is the next character. -/
def readEscape (p : Place) : Option (Char × Place) :=
  (p.ahead 1).bind fun c =>
    match escapes.lookup c, escapeWidths.lookup c with
    | some n, _ => some (Char.ofNat n, p.skip 2)
    | none, some width =>
      let digits := (p.skip 2).rest.take width
      if digits.length < width then none
      else ((hexNumber? digits).bind scalarValue?).map (·, p.skip (2 + width))
    | none, none => none

/-- Read a word of a quoted scalar. Beside the text comes whether an escaped line break ended it. -/
def readQuotedWord (quote : Char) : Nat → Place → List Char → Option (List Char × Bool × Place)
  | 0, p, text => some (text, false, p)
  | fuel + 1, p, text =>
    match p.next with
    | none => some (text, false, p)
    | some c =>
      if endsWord (some c) then some (text, false, p)
      else if quote = '\'' && c = '\'' && p.ahead 1 = some '\'' then
        readQuotedWord quote fuel (p.skip 2) (text ++ ['\''])
      else if c = quote then some (text, false, p)
      else if quote = '"' && c = '\\' then
        if (p.ahead 1).any isBreak then some (text, true, (p.skip 1).readBreak.2)
        else match readEscape p with
          | none => none
          | some (d, p) => readQuotedWord quote fuel p (text ++ [d])
      else readQuotedWord quote fuel (p.skip 1) (text ++ [c])

/-- Read a quoted scalar after its first quote. -/
def readQuoted (quote : Char) : Nat → Place → List Char → Option (List Char × Place)
  | 0, _, _ => none
  | fuel + 1, p, text =>
    if p.atDocumentMark || p.rest.isEmpty then none
    else match readQuotedWord quote (p.rest.length + 1) p text with
      | none => none
      | some (text, broken, p) =>
        if p.sees quote then some (text, p.skip 1)
        else match readGap (-1) (p.rest.length + 1) p { broken } with
          | none => none
          | some (gap, p) => readQuoted quote fuel p (text ++ gap.text)

/-! ## Block scalars -/

/-- What happens to the line breaks at the end of a block. -/
inductive Chomping where
  | strip
  | clip
  | keep
  deriving DecidableEq

/-- The chomping that a character asks for. -/
def chomping? : Char → Option Chomping
  | '+' => some .keep
  | '-' => some .strip
  | _ => none

/-- Read the number of columns by which a block is indented. -/
def readIndent (p : Place) : Option (Nat × Place) :=
  match p.next with
  | some c => if c = '0' then none else if c.isDigit then some (c.toNat - '0'.toNat, p.skip 1)
    else some (0, p)
  | none => some (0, p)

/-- Read how a block ends and how far it is indented, in either order. -/
def readBlockHeader (p : Place) : Option (Chomping × Nat × Place) :=
  match p.next.bind chomping? with
  | some ch => (readIndent (p.skip 1)).map fun (n, p) => (ch, n, p)
  | none => match readIndent p with
    | none => none
    | some (0, p) => some (.clip, 0, p)
    | some (n, p) => match p.next.bind chomping? with
      | some ch => some (ch, n, p.skip 1)
      | none => some (.clip, n, p)

/-- Read empty lines and the indentation of the line after them. `indent` is 0 as long as it is not
known; `deepest` is the largest indentation seen. -/
def readBlockBreaks (indent : Nat) : Nat → Place → Nat → List Char →
    Option (Nat × List Char × Place)
  | 0, p, deepest, breaks => some (deepest, breaks, p)
  | fuel + 1, p, deepest, breaks =>
    let spaces := p.rest.takeWhile (· = ' ')
    let p := p.skip (if indent = 0 then spaces.length else min spaces.length (indent - p.column))
    let deepest := max deepest p.column
    if (indent = 0 || p.column < indent) && p.sees '\t' then none
    else match p.next with
      | some c =>
        if isBreak c then
          let (text, p) := p.readBreak
          readBlockBreaks indent fuel p deepest (breaks ++ text)
        else some (deepest, breaks, p)
      | none => some (deepest, breaks, p)

/-- What has been read of a block. -/
structure Block where
  text : List Char := []
  /-- The break of the last line. -/
  lastBreak : List Char := []
  /-- The empty lines after it. -/
  breaks : List Char := []
  /-- Whether the last line began with white space. -/
  indentedLine : Bool := false

/-- Read the lines of a block. -/
def readBlockLines (literal : Bool) (indent : Nat) : Nat → Place → Block → Option (Block × Place)
  | 0, p, b => some (b, p)
  | fuel + 1, p, b =>
    if p.column != indent || p.rest.isEmpty then some (b, p)
    else
      let begins := p.next.any isSpace
      let folds := !literal && b.lastBreak.head? = some '\n' && !b.indentedLine && !begins
      let joint := if folds then (if b.breaks.isEmpty then [' '] else []) else b.lastBreak
      let (line, p) := p.span (!isBreak ·)
      let (lastBreak, p) := p.readBreak
      match readBlockBreaks indent (p.rest.length + 1) p 0 [] with
      | none => none
      | some (_, breaks, p) =>
        readBlockLines literal indent fuel p
          { text := b.text ++ joint ++ b.breaks ++ line, lastBreak, breaks, indentedLine := begins }

/-- Read a block scalar after its indicator, in a block indented by `outer` columns. -/
def readBlock (literal : Bool) (outer : Int) (p : Place) : Option (List Char × Place) :=
  match readBlockHeader p with
  | none => none
  | some (chomping, increment, p) =>
    let p := (p.span isSpace).2
    let p := if p.sees '#' then (p.span (!isBreak ·)).2 else p
    if !endsLine p.next then none
    else
      let p := p.readBreak.2
      let given :=
        if increment = 0 then 0 else if 0 ≤ outer then outer.toNat + increment else increment
      match readBlockBreaks given (p.rest.length + 1) p 0 [] with
      | none => none
      | some (deepest, breaks, p) =>
        let indent := if given = 0 then max (max deepest (outer + 1).toNat) 1 else given
        (readBlockLines literal indent (p.rest.length + 1) p { breaks }).map fun (b, p) =>
          let tail := match chomping with
            | .strip => []
            | .clip => b.lastBreak
            | .keep => b.lastBreak ++ b.breaks
          (b.text ++ tail, p)

end Stepwise.Yaml
