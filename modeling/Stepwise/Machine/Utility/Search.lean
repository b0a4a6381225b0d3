import Stepwise.Machine.Regex
import Stepwise.Machine.Utility.Basic

/-!
# Programs that search text

`grep` prints the lines that match one of some expressions; `sed` runs a script of commands on each
line. Of the commands of `sed` these are known: `s`, `y`, `p`, `d`, `q`, `=` and blocks are not.
-/

namespace Stepwise.Machine.Utility

/-! ## Matching lines -/

/-- What the options of `grep` ask for. -/
structure Query where
  patterns : List Regex
  settings : Regex.Settings
  inverted : Bool
  /-- Whether a match has to be the whole line, or to stand between ends of words. -/
  whole : Bool
  words : Bool

/-- An expression for a fixed text. -/
def fixed (text : Raw) : Regex := text.foldr (fun c r => .both (Regex.literal c) r) .nothing

/-- The match of a query in a line, if there is one. -/
def Query.match? (q : Query) (line : Raw) : Option Regex.Match :=
  let around (r : Regex) : Regex :=
    if q.whole then .both .lineStart (.both r .lineEnd)
    else if q.words then .both .wordEdge (.both r .wordEdge) else r
  q.patterns.findSome? fun r => Regex.search q.settings (around r) line

/-- Whether a line is selected. -/
def Query.selects (q : Query) (line : Raw) : Bool := (q.match? line).isSome ≠ q.inverted

/-- The pieces of a line that match. -/
def Query.pieces (q : Query) : Nat → Raw → List Raw
  | 0, _ => []
  | fuel + 1, line => match q.match? line with
    | none => []
    | some m =>
      if m.text.isEmpty then
        if line.isEmpty then [] else q.pieces fuel (line.drop (m.start + 1))
      else m.text :: q.pieces fuel (line.drop (m.start + m.text.length))

/-- The options of `grep`. -/
def grepOptions : OptionTable where
  plain := "vicqnoEFGwxlLhHsaU"
  valued := "emA"
  long := [("quiet", 'q'), ("count", 'c'), ("invert-match", 'v'), ("ignore-case", 'i'),
    ("only-matching", 'o'), ("extended-regexp", 'E'), ("fixed-strings", 'F'),
    ("line-regexp", 'x'), ("word-regexp", 'w'), ("line-number", 'n')]

/-- The lines that `grep` prints for an input, and whether something was selected. -/
def grepLines (options : Options) (q : Query) (label : Raw) (content : Raw) : List Raw × Bool :=
  let selected := ((Raw.lines content).zipIdx 1).filter fun (line, _) => q.selects line
  let selected := match (options.value? 'm').bind Raw.toNat? with
    | some n => selected.take n
    | none => selected
  let lines : List Raw :=
    if options.has 'q' then []
    else if options.has 'c' then [label ++ Raw.ofNat selected.length]
    else selected.flatMap fun (line, i) =>
      let mark := label ++ (if options.has 'n' then Raw.ofNat i ++ [':'] else [])
      if options.has 'o' then
        if q.inverted then [] else (q.pieces (line.length + 1) line).map (mark ++ ·)
      else [mark ++ line]
  (lines, !selected.isEmpty)

/-- Search with the options given. -/
def grepWith (program : Start) (options : Options) : Task Nat := do
  let (texts, operands) := if options.has 'e' then (options.values 'e', options.operands)
    else (options.operands.take 1, options.operands.drop 1)
  if texts.isEmpty then return ← misused program 2 (Raw.ofString "no pattern given")
  let extended := options.last? ['E', 'G', 'F'] = some 'E'
  let parse (text : Raw) : Option Regex :=
    if options.has 'F' then some (fixed text) else Regex.parse extended text
  match (texts.flatMap (Raw.splitOn '\n')).mapM parse with
  | none => fail program 2 (Raw.ofString "Invalid regular expression")
  | some patterns =>
    let q : Query := {
      patterns, settings := { ignoresCase := options.has 'i' }, inverted := options.has 'v'
      whole := options.has 'x', words := options.has 'w' }
    let (inputs, failed) ← readInputs program (inputNames operands)
    let labelled := (1 < operands.length || options.has 'H') && !options.has 'h'
    let results := inputs.map fun (name, content) =>
      (name, grepLines options q (if labelled then name ++ [':'] else []) content)
    let found := results.any (·.2.2)
    if options.has 'l' then
      put program (Raw.unlines ((results.filter (·.2.2)).map (·.1)))
    else put program (Raw.unlines (results.flatMap (·.2.1)))
    return if failed && !(options.has 'q' && found) then 2 else if found then 0 else 1

def grep : Program := withOptions grepOptions 2 grepWith

def egrep : Program := fun program =>
  grep { program with arguments := ['-', 'E'] :: program.arguments }

def fgrep : Program := fun program =>
  grep { program with arguments := ['-', 'F'] :: program.arguments }

/-! ## Editing lines -/

/-- Which lines a command is for. -/
inductive Address where
  | line (number : Nat)
  | last
  | pattern (r : Regex)

/-- What a command does to a line. -/
inductive Edit where
  | substitute (r : Regex) (settings : Regex.Settings) (replacement : Raw)
    (everywhere prints : Bool)
      (nth : Nat)
  | transliterate (source target : Raw)
  | print
  | delete
  | quit
  | number

/-- A command with its addresses. -/
structure EditCommand where
  addresses : List Address
  negated : Bool
  edit : Edit

/-- The text up to a delimiter, which is taken literally behind a backslash, and what follows it. -/
def delimited (delimiter : Char) : Raw → Option (Raw × Raw)
  | [] => none
  | '\\' :: c :: cs => (delimited delimiter cs).map fun (text, rest) =>
    (if c = delimiter then c :: text else '\\' :: c :: text, rest)
  | c :: cs =>
    if c = delimiter then some ([], cs)
    else (delimited delimiter cs).map fun (text, rest) => (c :: text, rest)

/-- Read an address. -/
def address? (extended : Bool) (text : Raw) : Option (Address × Raw) :=
  match text with
  | '$' :: rest => some (.last, rest)
  | '/' :: rest => do
    let (pattern, rest) ← delimited '/' rest
    return (.pattern (← Regex.parse extended pattern), rest)
  | _ =>
    let digits := text.takeWhile Char.isDigit
    (Raw.toNat? digits).map fun n => (.line n, text.drop digits.length)

/-- Read a command without its addresses. -/
def edit? (extended : Bool) (text : Raw) : Option (Edit × Raw) :=
  match text with
  | 's' :: delimiter :: rest => do
    let (pattern, rest) ← delimited delimiter rest
    let (replacement, rest) ← delimited delimiter rest
    let flags := rest.takeWhile fun c => c.isDigit || c ∈ ['g', 'p', 'i', 'I']
    let r ← Regex.parse extended pattern
    let settings : Regex.Settings := { ignoresCase := flags.contains 'i' || flags.contains 'I' }
    let nth := (Raw.toNat? (flags.filter Char.isDigit)).getD 1
    return (.substitute r settings replacement (flags.contains 'g') (flags.contains 'p') nth,
      rest.drop flags.length)
  | 'y' :: delimiter :: rest => do
    let (source, rest) ← delimited delimiter rest
    let (target, rest) ← delimited delimiter rest
    return (.transliterate source target, rest)
  | 'p' :: rest => some (.print, rest)
  | 'd' :: rest => some (.delete, rest)
  | 'q' :: rest => some (.quit, rest)
  | '=' :: rest => some (.number, rest)
  | _ => none

/-- Whether a character stands between commands. -/
def separatesEdits (c : Char) : Bool := c = ';' || c = '\n' || c = ' '

/-- Read a script of commands. The number bounds how many there are. -/
def edits? (extended : Bool) : Nat → Raw → Option (List EditCommand)
  | 0, _ => none
  | fuel + 1, text =>
    let text := text.dropWhile separatesEdits
    if text.isEmpty then some [] else do
      let (addresses, text) := match address? extended text with
        | none => ([], text)
        | some (a, ',' :: rest) => match address? extended rest with
          | some (b, rest) => ([a, b], rest)
          | none => ([a], rest)
        | some (a, rest) => ([a], rest)
      let text := text.dropWhile (· = ' ')
      let negated := text.head? = some '!'
      let (edit, rest) ← edit? extended (if negated then text.drop 1 else text)
      let others ← edits? extended fuel rest
      return { addresses, negated, edit } :: others

/-- A replacement filled with the groups of a match. -/
def fillReplacement (m : Regex.Match) : Raw → Raw
  | [] => []
  | '&' :: cs => m.text ++ fillReplacement m cs
  | '\\' :: 'n' :: cs => '\n' :: fillReplacement m cs
  | '\\' :: 't' :: cs => '\t' :: fillReplacement m cs
  | '\\' :: c :: cs =>
    (if c.isDigit then if c = '0' then m.text
      else (m.groups.lookup (c.toNat - '0'.toNat)).getD [] else [c]) ++ fillReplacement m cs
  | c :: cs => c :: fillReplacement m cs

/-- A line with matches replaced from the `nth` on, and whether something was replaced. -/
def substituteFrom (r : Regex) (s : Regex.Settings) (replacement : Raw) (everywhere : Bool) :
    Nat → Nat → Regex.Place → Raw × Bool
  | 0, _, p => (p.rest, false)
  | fuel + 1, nth, p => match Regex.searchFrom s r p.rest.length p with
    | none => (p.rest, false)
    | some m =>
      let before := p.rest.take (m.start - p.index)
      let extra := if m.text.isEmpty then 1 else 0
      let after := p.skip (before.length + m.text.length)
      let passed := after.rest.take extra
      let (tail, changed) := if nth ≤ 1 && !everywhere then (after.rest.drop extra, true)
        else if after.rest.isEmpty then ([], nth ≤ 1)
        else substituteFrom r s replacement everywhere fuel (nth - 1) (after.skip extra)
      let text := if nth ≤ 1 then fillReplacement m replacement else m.text
      (before ++ text ++ passed ++ tail, changed || nth ≤ 1)

/-- A line on which a script works. -/
structure EditLine where
  text : Raw
  output : List Raw := []
  deleted : Bool := false
  quits : Bool := false

/-- The effect of a command on a line. -/
def Edit.apply (number : Nat) (l : EditLine) : Edit → EditLine
  | .substitute r s replacement everywhere prints nth =>
    let (text, changed) := substituteFrom r s replacement everywhere (l.text.length + 1) nth
      { rest := l.text }
    { l with text, output := if changed && prints then l.output ++ [text] else l.output }
  | .transliterate source target =>
    { l with text := l.text.map fun c => match source.idxOf? c with
        | some i => (target[i]?).getD c
        | none => c }
  | .print => { l with output := l.output ++ [l.text] }
  | .delete => { l with deleted := true }
  | .quit => { l with quits := true }
  | .number => { l with output := l.output ++ [Raw.ofNat number] }

/-- Whether an address means a line. -/
def Address.means (number total : Nat) (text : Raw) : Address → Bool
  | .line n => n = number
  | .last => number = total
  | .pattern r => (Regex.search {} r text).isSome

/-- Whether a command is for a line, and whether a range of lines is open behind it. -/
def EditCommand.isFor (c : EditCommand) (number total : Nat) (text : Raw) (inRange : Bool) :
    Bool × Bool :=
  let (chosen, inRange) := match c.addresses with
    | [] => (true, false)
    | [a] => (a.means number total text, false)
    | a :: b :: _ =>
      if inRange then
        let ends := match b with
          | .line n => n ≤ number
          | b => b.means number total text
        (true, !ends)
      else
        let begins := a.means number total text
        let open? := match b with
          | .line n => number < n
          | .last => number < total
          | .pattern _ => true
        (begins, begins && open?)
  (chosen ≠ c.negated, inRange)

/-- Run commands on a line; each comes with whether its range is open. -/
def runEdits (number total : Nat) : List (EditCommand × Bool) → EditLine →
    EditLine × List (EditCommand × Bool)
  | [], l => (l, [])
  | (c, inRange) :: cs, l =>
    if l.deleted || l.quits then (l, (c, inRange) :: cs)
    else
      let (chosen, inRange) := c.isFor number total l.text inRange
      let l := if chosen then c.edit.apply number l else l
      let (l, cs) := runEdits number total cs l
      (l, (c, inRange) :: cs)

/-- The lines that a script prints. -/
def editLines (silent : Bool) (total : Nat) : Nat → List (EditCommand × Bool) → List Raw → List Raw
  | _, _, [] => []
  | number, script, text :: texts =>
    let (l, script) := runEdits number total script { text }
    let own := if silent || l.deleted then [] else [l.text]
    l.output ++ own ++ (if l.quits then [] else editLines silent total (number + 1) script texts)

def sed : Program := withOptions
    { plain := "nErsuz", valued := "e", long := [("quiet", 'n'), ("expression", 'e')] } 1
    fun program options => do
  let (scripts, operands) := if options.has 'e' then (options.values 'e', options.operands)
    else (options.operands.take 1, options.operands.drop 1)
  let text := Raw.join ['\n'] scripts
  match edits? (options.has 'E' || options.has 'r') (text.length + 1) text with
  | none => fail program 1 ("-e expression #1, char 1: unknown command".toList)
  | some script =>
    let (inputs, failed) ← readInputs
      { program with name := program.name ++ ": can't read".toList } (inputNames operands)
    let content := inputs.flatMap (·.2)
    let lines := Raw.lines content
    let output := editLines (options.has 'n') lines.length 1 (script.map (·, false)) lines
    let ended := content.getLast?.all (· = '\n')
    put program (if ended then Raw.unlines output else Raw.join ['\n'] output)
    return if failed then 2 else 0

end Stepwise.Machine.Utility
