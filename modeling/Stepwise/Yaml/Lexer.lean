import Stepwise.Yaml.Scalar

/-!
# From text to tokens

Tokens are read from left to right. Two things are known only later. A node may turn out to be the
key of a mapping when a `:` follows it on the same line: then a key token, and where the indentation
grows also the start of a block mapping, is put in front of the node. And a block ends when a line
is indented less than it.

* `Token.ofText?`: the tokens of a text, if it can be cut into tokens.
-/

namespace Stepwise.Yaml

/-- A node that may turn out to be a key. -/
structure KeyCandidate where
  /-- It has to be a key, since it stands where the keys of its block mapping stand. -/
  required : Bool
  /-- The number of tokens before it. -/
  tokenIndex : Nat
  place : Place

/-- What has been read so far. -/
structure Lexer where
  place : Place
  tokens : Array Token := #[]
  /-- The indentation of the current block, and that of the blocks around it. -/
  indent : Int := -1
  outerIndents : List Int := []
  /-- For each bracket that is open, and for the block around them all, the last node that may be a
  key; the innermost comes first. -/
  candidates : List (Option KeyCandidate) := [none]
  /-- Whether a key may stand here. -/
  keyAllowed : Bool := true

namespace Lexer

/-- The number of open brackets. -/
def flowLevel (s : Lexer) : Nat := s.candidates.length - 1

def inFlow (s : Lexer) : Bool := 0 < s.flowLevel

def emit (s : Lexer) (t : Token) : Lexer := { s with tokens := s.tokens.push t }

/-- Add a token for the next `n` characters. -/
def take (s : Lexer) (n : Nat) (t : Token) : Lexer :=
  { s.emit t with place := s.place.skip n }

def allowKey (s : Lexer) (b : Bool) : Lexer := { s with keyAllowed := b }

/-! ## Blocks and keys -/

/-- Begin a block at a column that is further in, by a token at the given index. -/
def openBlock (s : Lexer) (column index : Nat) (t : Token) : Lexer :=
  if !s.inFlow && s.indent < column then
    { s with
      indent := column, outerIndents := s.indent :: s.outerIndents
      tokens := s.tokens.insertIdxIfInBounds index t }
  else s

/-- End the blocks that are further in than a column; `indents` are those around the current one. -/
def closeBlocksTo (s : Lexer) (column : Int) : List Int → Lexer
  | [] => s
  | outer :: rest =>
    if column < s.indent then
      closeBlocksTo { s.emit .blockEnd with indent := outer, outerIndents := rest } column rest
    else s

/-- End the blocks that are further in than a column. -/
def closeBlocks (s : Lexer) (column : Int) : Lexer :=
  if s.inFlow then s else s.closeBlocksTo column s.outerIndents

/-- Forget candidates that can no longer be keys: those of earlier lines and those too far back. -/
def expireCandidates (s : Lexer) : Option Lexer :=
  let expired (c : KeyCandidate) :=
    c.place.line < s.place.line || c.place.index + 1024 < s.place.index
  let kept := s.candidates.mapM fun c => match c with
    | some k => if expired k then (if k.required then none else some none) else some (some k)
    | none => some none
  kept.map fun candidates => { s with candidates }

/-- Give up the innermost candidate, which is a fault if it has to be a key. -/
def dropCandidate (s : Lexer) : Option Lexer :=
  match s.candidates with
  | some k :: rest => if k.required then none else some { s with candidates := none :: rest }
  | _ => some s

/-- The node that begins here may be a key. -/
def noteCandidate (s : Lexer) : Option Lexer :=
  if !s.keyAllowed then some s
  else s.dropCandidate.map fun s =>
    let k : KeyCandidate :=
      { required := !s.inFlow && s.indent = s.place.column
        tokenIndex := s.tokens.size, place := s.place }
    { s with candidates := some k :: s.candidates.tail }

/-! ## Single tokens -/

/-- Skip white space, comments and line breaks. A tab counts as white space only where no key can
stand. -/
def skipGap : Nat → Lexer → Lexer
  | 0, s => s
  | fuel + 1, s =>
    let p := if s.place.index = 0 && s.place.sees byteOrderMark then s.place.skip 1 else s.place
    let tabs := s.inFlow || !s.keyAllowed
    let p := (p.span fun c => c = ' ' || (tabs && c = '\t')).2
    let p := if p.sees '#' then (p.span (!isBreak ·)).2 else p
    if p.next.any isBreak then
      skipGap fuel { s with place := p.readBreak.2, keyAllowed := s.keyAllowed || !s.inFlow }
    else { s with place := p }

/-- Leave every block, for something that stands outside of all of them. -/
def leaveBlocks (s : Lexer) : Option Lexer :=
  (s.closeBlocks (-1)).dropCandidate.map (·.allowKey false)

/-- The characters of a tag's text. Between angle brackets and in a directive there may be more. -/
def isTagChar (whole : Bool) (c : Char) : Bool :=
  c.isAlphanum || "_-;/?:@&=+$.%!~*'()".toList.contains c || (whole && ",[]".toList.contains c)

/-- A text in which `%` and two digits stand for a byte. -/
def unescapeTag : Nat → List Char → Option Bytes
  | 0, _ => none
  | _ + 1, [] => some []
  | fuel + 1, '%' :: a :: b :: cs => do
    let n ← hexNumber? [a, b]
    let rest ← unescapeTag fuel cs
    some (UInt8.ofNat n :: rest)
  | _ + 1, '%' :: _ => none
  | fuel + 1, c :: cs => do
    let rest ← unescapeTag fuel cs
    some (String.utf8EncodeChar c ++ rest)

/-- The text of the characters of a tag. -/
def tagText (cs : List Char) : Option String :=
  (unescapeTag (cs.length + 1) cs).bind Utf8.decode?

/-- Read the handle of a tag, from its `!` on. -/
def readTagHandle (p : Place) : List Char × Place :=
  let (name, q) := (p.skip 1).span isNameChar
  if q.sees '!' then ('!' :: name ++ ['!'], q.skip 1) else ('!' :: name, q)

/-- Read a tag: its handle and its suffix. -/
def readTag (p : Place) : Option (String × String × Place) :=
  if p.ahead 1 = some '<' then
    let (uri, q) := (p.skip 2).span (isTagChar true)
    if uri.isEmpty || !q.sees '>' then none
    else (tagText uri).map fun text => ("", text, q.skip 1)
  else
    let (handle, q) := readTagHandle p
    let (more, q) := q.span (isTagChar false)
    if 2 ≤ handle.length && handle.getLast? = some '!' then
      if more.isEmpty then none
      else (tagText more).map fun text => (String.ofList handle, text, q)
    else (tagText (handle.tail ++ more)).map fun text =>
      if text = "" then ("", "!", q) else ("!", text, q)

/-- Read the number of a version. -/
def readVersionNumber (p : Place) : Option (Nat × Place) :=
  let (ds, p) := p.span Char.isDigit
  if ds.isEmpty || 9 < ds.length then none
  else some (ds.foldl (fun n c => 10 * n + (c.toNat - '0'.toNat)) 0, p)

/-- Read a directive after its `%`. -/
def readDirective (p : Place) : Option (Token × Place) := do
  let (name, p) := p.span isNameChar
  if !endsWord p.next then none
  let p := (p.span isSpace).2
  let (token, p) ← if name = "YAML".toList then do
      let (major, p) ← readVersionNumber p
      if !p.sees '.' then none
      let (minor, p) ← readVersionNumber (p.skip 1)
      some (Token.versionDirective major minor, p)
    else if name = "TAG".toList then do
      if !p.sees '!' then none
      let (handle, p) := readTagHandle p
      if handle ≠ ['!'] && handle.getLast? ≠ some '!' then none
      if !p.next.any isSpace then none
      let (uri, p) := (p.span isSpace).2.span (isTagChar true)
      if uri.isEmpty || !endsWord p.next then none
      let text ← tagText uri
      some (Token.tagDirective (String.ofList handle) text, p)
    else none
  let p := (p.span isSpace).2
  let p := if p.sees '#' then (p.span (!isBreak ·)).2 else p
  if !endsLine p.next then none
  some (token, p.readBreak.2)

/-- Whether a name of an anchor may end before this. -/
def endsName (o : Option Char) : Bool :=
  endsWord o || o.any fun c => "?:,]\x7d%@`".toList.contains c

/-- A bracket opens. -/
def openFlow (s : Lexer) (t : Token) : Option Lexer :=
  s.noteCandidate.map fun s =>
    ({ s with candidates := none :: s.candidates, keyAllowed := true }).take 1 t

/-- A bracket closes. -/
def closeFlow (s : Lexer) (t : Token) : Option Lexer :=
  s.dropCandidate.map fun s =>
    let candidates := if s.inFlow then s.candidates.tail else s.candidates
    ({ s with candidates, keyAllowed := false }).take 1 t

/-- A `-` begins an entry of a block sequence. -/
def blockEntry (s : Lexer) : Option Lexer :=
  if !s.inFlow && !s.keyAllowed then none
  else (s.openBlock s.place.column s.tokens.size .blockSequenceStart).dropCandidate.map fun s =>
    (s.allowKey true).take 1 .blockEntry

/-- A `?` begins a key. -/
def explicitKey (s : Lexer) : Option Lexer :=
  if !s.inFlow && !s.keyAllowed then none
  else (s.openBlock s.place.column s.tokens.size .blockMappingStart).dropCandidate.map fun s =>
    (s.allowKey (!s.inFlow)).take 1 .key

/-- A `:` begins a value; the node before it is its key, if it can be one. -/
def mappingValue (s : Lexer) : Option Lexer :=
  match s.candidates with
  | some k :: rest =>
    let s := { s with tokens := s.tokens.insertIdxIfInBounds k.tokenIndex .key }
    let s := s.openBlock k.place.column k.tokenIndex .blockMappingStart
    some (({ s with candidates := none :: rest, keyAllowed := false }).take 1 .value)
  | _ =>
    if !s.inFlow && !s.keyAllowed then none
    else
      let s := s.openBlock s.place.column s.tokens.size .blockMappingStart
      some ((s.allowKey (!s.inFlow)).take 1 .value)

/-- An anchor or an alias. -/
def name (s : Lexer) (make : String → Token) : Option Lexer :=
  s.noteCandidate.bind fun s =>
    let (cs, p) := (s.place.skip 1).span isNameChar
    if cs.isEmpty || !endsName p.next then none
    else some { s.emit (make (String.ofList cs)) with place := p, keyAllowed := false }

/-- A tag. -/
def tag (s : Lexer) : Option Lexer :=
  s.noteCandidate.bind fun s => (readTag s.place).bind fun (handle, suffix, p) =>
    if endsWord p.next || (s.inFlow && p.sees ',') then
      some { s.emit (.tag handle suffix) with place := p, keyAllowed := false }
    else none

/-- A literal or folded block. -/
def block (s : Lexer) (literal : Bool) : Option Lexer :=
  s.dropCandidate.bind fun s => (readBlock literal s.indent (s.place.skip 1)).map fun (text, p) =>
    let t := Token.scalar (String.ofList text) (if literal then .literal else .folded)
    { s.emit t with place := p, keyAllowed := true }

/-- A quoted scalar. -/
def quotedScalar (s : Lexer) (quote : Char) (style : Style) : Option Lexer :=
  s.noteCandidate.bind fun s =>
    let p := s.place.skip 1
    (readQuoted quote (p.rest.length + 1) p []).map fun (text, p) =>
      { s.emit (.scalar (String.ofList text) style) with place := p, keyAllowed := false }

/-- A plain scalar. If a line ended after it, a key may follow. -/
def plainScalar (s : Lexer) : Option Lexer :=
  s.noteCandidate.bind fun s =>
    (readPlain s.inFlow (s.indent + 1) (s.place.rest.length + 1) s.place [] {}).map
      fun (text, broken, p) =>
        { s.emit (.scalar (String.ofList text) .plain) with place := p, keyAllowed := broken }

/-- The characters that cannot begin a plain scalar by themselves. -/
def indicators : List Char := "-?:,[]\x7b\x7d#&*!|>'\"%@`".toList

/-- Whether a plain scalar begins with `c`, given the character after it. -/
def beginsPlain (flow : Bool) (c : Char) (after : Option Char) : Bool :=
  (!indicators.contains c && !isSpace c) || (c = '-' && !after.any isSpace) ||
    (!flow && (c = '?' || c = ':') && !endsWord after)

/-- Read the token that begins with `c`, at a place where a token begins. -/
def token (s : Lexer) (c : Char) : Option Lexer :=
  let after := s.place.ahead 1
  if s.place.column = 0 && c = '%' then
    s.leaveBlocks.bind fun s => (readDirective (s.place.skip 1)).map fun (t, p) =>
      { s.emit t with place := p }
  else if s.place.atMark '-' then s.leaveBlocks.map (·.take 3 .documentStart)
  else if s.place.atMark '.' then s.leaveBlocks.map (·.take 3 .documentEnd)
  else if c = '[' then s.openFlow .flowSequenceStart
  else if c = '{' then s.openFlow .flowMappingStart
  else if c = ']' then s.closeFlow .flowSequenceEnd
  else if c = '}' then s.closeFlow .flowMappingEnd
  else if c = ',' then s.dropCandidate.map fun s => (s.allowKey true).take 1 .flowEntry
  else if c = '-' && endsWord after then s.blockEntry
  else if c = '?' && (s.inFlow || endsWord after) then s.explicitKey
  else if c = ':' && (s.inFlow || endsWord after) then s.mappingValue
  else if c = '*' then s.name .alias
  else if c = '&' then s.name .anchor
  else if c = '!' then s.tag
  else if c = '|' && !s.inFlow then s.block true
  else if c = '>' && !s.inFlow then s.block false
  else if c = '\'' then s.quotedScalar '\'' .singleQuoted
  else if c = '"' then s.quotedScalar '"' .doubleQuoted
  else if beginsPlain s.inFlow c after then s.plainScalar
  else none

/-- Read all tokens. Every token takes at least one character. -/
def run : Nat → Lexer → Option (List Token)
  | 0, _ => none
  | fuel + 1, s =>
    let s := skipGap (s.place.rest.length + 1) s
    match s.expireCandidates with
    | none => none
    | some s =>
      let s := s.closeBlocks s.place.column
      match s.place.next with
      | none => s.leaveBlocks.map fun s => (s.emit .streamEnd).tokens.toList
      | some c => (s.token c).bind (run fuel)

end Lexer

/-- The tokens of a text. -/
def Token.ofText? (text : String) : Option (List Token) :=
  let cs := text.toList
  if cs.all isAllowed then Lexer.run (cs.length + 1) { place := { rest := cs } } else none

end Stepwise.Yaml
