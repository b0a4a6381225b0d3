import Stepwise.Yaml.Fault
import Stepwise.Yaml.Lexer

/-!
# Nodes of a YAML document

A document is one node: a scalar, a sequence, a mapping, or an alias that stands for an anchored
node. A text that holds comments only is an empty plain scalar.

* `Document.ofText`: the only document of a text.
-/

namespace Stepwise.Yaml

/-- A node of a document. -/
inductive Node where
  | scalar (tag : Option String) (style : Style) (text : String)
  | sequence (tag : Option String) (items : List Node)
  | mapping (tag : Option String) (entries : List (Node × Node))
  | alias (anchor : Nat)
  deriving Inhabited

/-- A node that an anchor names. Of two with one number, the one that begins later counts. -/
structure Anchored where
  number : Nat
  begins : Nat
  node : Node

/-- A document. -/
structure Document where
  root : Node
  anchored : List Anchored

namespace Node

/-- The node that stands where nothing is written. -/
def nothing : Node := .scalar none .plain ""

mutual

/-- The number of parse events of a node: one for a scalar or alias, and two for the ends of any
other. -/
def eventCount : Node → Nat
  | .scalar .. => 1
  | .alias _ => 1
  | .sequence _ items => eventCountItems items + 2
  | .mapping _ entries => eventCountEntries entries + 2

def eventCountItems : List Node → Nat
  | [] => 0
  | n :: ns => eventCount n + eventCountItems ns

def eventCountEntries : List (Node × Node) → Nat
  | [] => 0
  | (k, v) :: es => eventCount k + eventCount v + eventCountEntries es

end

end Node

/-! ## From tokens to nodes -/

/-- What is left to read and what is known. -/
structure Composition where
  tokens : List Token
  /-- The tag directives of the document. -/
  tagUris : List (String × String) := []
  /-- The number of each anchor's name. -/
  anchorNumbers : List (String × Nat) := []
  anchored : List Anchored := []
  /-- The number of nodes that have begun. -/
  begun : Nat := 0

/-- A reader of tokens. -/
abbrev Composer := StateT Composition (Except Fault)

namespace Composer

/-- The next token. -/
def peek : Composer Token := do
  return (← get).tokens.headD .streamEnd

/-- Go past the next token. -/
def advance : Composer Unit :=
  modify fun s => { s with tokens := s.tokens.tail }

/-- Go past the next token if it is `t`, and say whether it was. -/
def accept (t : Token) : Composer Bool := do
  if (← peek) = t then
    advance
    return true
  else return false

/-- The tags that need no directive. -/
def defaultTagUris : List (String × String) := [("!", "!"), ("!!", "tag:yaml.org,2002:")]

/-- The whole text of a tag. -/
def fullTag (handle suffix : String) : Composer String := do
  if handle = "" then return suffix
  match ((← get).tagUris ++ defaultTagUris).lookup handle with
  | some uri => return uri ++ suffix
  | none => throw .illFormed

/-- Give the anchor of a node that begins here its number. -/
def registerAnchor (name : String) : Composer Nat := do
  let s ← get
  let number := s.anchorNumbers.length
  let others := s.anchorNumbers.filter (·.1 ≠ name)
  set { s with anchorNumbers := (name, number) :: others }
  return number

/-- The properties of a node. -/
structure Properties where
  anchor : Option String := none
  tag : Option String := none

/-- Read an anchor and a tag, in either order. -/
def properties : Composer Properties := do
  match ← peek with
  | .anchor a =>
    advance
    match ← peek with
    | .tag h s =>
      advance
      return { anchor := some a, tag := some (← fullTag h s) }
    | _ => return { anchor := some a }
  | .tag h s =>
    advance
    match ← peek with
    | .anchor a =>
      advance
      return { anchor := some a, tag := some (← fullTag h s) }
    | _ => return { tag := some (← fullTag h s) }
  | _ => return {}

/-- Run the reader of a node's content, with the anchor noted at its beginning. -/
def anchoring (anchor : Option String) (content : Composer Node) : Composer Node := do
  let begins := (← get).begun
  modify fun s => { s with begun := begins + 1 }
  match anchor with
  | none => content
  | some name =>
    let number ← registerAnchor name
    let node ← content
    modify fun s => { s with anchored := ⟨number, begins, node⟩ :: s.anchored }
    return node

/-- A tag of a scalar; `!` only says that the text is to be taken as it is written. -/
def scalarTag (tag : Option String) : Option String :=
  if tag = some "!" then none else tag

mutual

/-- A node. A sequence without indentation may stand only as the value or key of a mapping. -/
def node (block indentless : Bool) : Nat → Composer Node
  | 0 => throw .illFormed
  | fuel + 1 => do
    match ← peek with
    | .alias name =>
      advance
      match (← get).anchorNumbers.lookup name with
      | some n => return .alias n
      | none => throw .unknownAnchor
    | _ =>
      let props ← properties
      anchoring props.anchor (content block indentless props fuel)

/-- What a node's properties belong to. -/
def content (block indentless : Bool) (props : Properties) : Nat → Composer Node
  | 0 => throw .illFormed
  | fuel + 1 => do
    match ← peek with
    | .scalar text style =>
      advance
      return .scalar (scalarTag props.tag) style text
    | .flowSequenceStart =>
      advance
      return .sequence props.tag (← flowItems true fuel)
    | .flowMappingStart =>
      advance
      return .mapping props.tag (← flowEntries true fuel)
    | .blockEntry =>
      if indentless then return .sequence props.tag (← indentlessItems fuel) else empty props
    | .blockSequenceStart =>
      if block then
        advance
        return .sequence props.tag (← blockItems fuel)
      else empty props
    | .blockMappingStart =>
      if block then
        advance
        return .mapping props.tag (← blockEntries fuel)
      else empty props
    | _ => empty props

/-- Properties without content stand for an empty scalar. -/
def empty (props : Properties) : Composer Node :=
  if props.anchor.isSome || props.tag.isSome then return .scalar props.tag .plain ""
  else throw .illFormed

/-- A node, unless one of the given tokens says that nothing is written. -/
def nodeUnless (block indentless : Bool) (ends : List Token) : Nat → Composer Node
  | 0 => throw .illFormed
  | fuel + 1 => do
    if (← peek) ∈ ends then return .nothing else node block indentless fuel

/-- The entries of a block sequence. -/
def blockItems : Nat → Composer (List Node)
  | 0 => throw .illFormed
  | fuel + 1 => do
    if ← accept .blockEntry then
      let item ← nodeUnless true false [.blockEntry, .blockEnd] fuel
      return item :: (← blockItems fuel)
    else if ← accept .blockEnd then return []
    else throw .illFormed

/-- The entries of a block sequence that is not indented more than its mapping. -/
def indentlessItems : Nat → Composer (List Node)
  | 0 => throw .illFormed
  | fuel + 1 => do
    if ← accept .blockEntry then
      let item ← nodeUnless true false [.blockEntry, .key, .value, .blockEnd] fuel
      return item :: (← indentlessItems fuel)
    else return []

/-- The entries of a block mapping. -/
def blockEntries : Nat → Composer (List (Node × Node))
  | 0 => throw .illFormed
  | fuel + 1 => do
    if ← accept .blockEnd then return []
    else if ← accept .key then
      let k ← nodeUnless true true [.key, .value, .blockEnd] fuel
      let v ← blockValue fuel
      return (k, v) :: (← blockEntries fuel)
    else throw .illFormed

/-- The value of an entry of a block mapping. -/
def blockValue : Nat → Composer Node
  | 0 => throw .illFormed
  | fuel + 1 => do
    if ← accept .value then nodeUnless true true [.key, .value, .blockEnd] fuel
    else return .nothing

/-- The entries of a sequence in brackets. An entry with a key is a mapping of one entry. -/
def flowItems (first : Bool) : Nat → Composer (List Node)
  | 0 => throw .illFormed
  | fuel + 1 => do
    if ← accept .flowSequenceEnd then return []
    if !first then
      if !(← accept .flowEntry) then throw .illFormed
    if ← accept .flowSequenceEnd then return []
    if ← accept .key then
      let entry ← anchoring none (flowPair fuel)
      return entry :: (← flowItems false fuel)
    else
      let item ← node false false fuel
      return item :: (← flowItems false fuel)

/-- A mapping of one entry inside brackets, after its key indicator. Without a key its next token
is passed over. -/
def flowPair : Nat → Composer Node
  | 0 => throw .illFormed
  | fuel + 1 => do
    let k ← if (← peek) ∈ [.value, .flowEntry, .flowSequenceEnd] then do
        advance
        pure .nothing
      else node false false fuel
    let v ← flowValue [.flowEntry, .flowSequenceEnd] fuel
    return .mapping none [(k, v)]

/-- The entries of a mapping in braces. -/
def flowEntries (first : Bool) : Nat → Composer (List (Node × Node))
  | 0 => throw .illFormed
  | fuel + 1 => do
    if ← accept .flowMappingEnd then return []
    if !first then
      if !(← accept .flowEntry) then throw .illFormed
    if ← accept .flowMappingEnd then return []
    if ← accept .key then
      let k ← nodeUnless false false [.value, .flowEntry, .flowMappingEnd] fuel
      let v ← flowValue [.flowEntry, .flowMappingEnd] fuel
      return (k, v) :: (← flowEntries false fuel)
    else
      let k ← node false false fuel
      return (k, .nothing) :: (← flowEntries false fuel)

/-- The value of an entry inside brackets or braces. -/
def flowValue (ends : List Token) : Nat → Composer Node
  | 0 => throw .illFormed
  | fuel + 1 => do
    if ← accept .value then nodeUnless false false ends fuel else return .nothing

end

/-- Read the directives of a document. The arguments are what has been read of them. -/
def directives : Nat → Bool → List (String × String) → Composer (List (String × String))
  | 0, _, _ => throw .illFormed
  | fuel + 1, versioned, uris => do
    match ← peek with
    | .versionDirective major minor =>
      if versioned || major ≠ 1 || (minor ≠ 1 && minor ≠ 2) then throw .illFormed
      advance
      directives fuel true uris
    | .tagDirective handle uri =>
      if (uris.lookup handle).isSome then throw .illFormed
      advance
      directives fuel versioned (uris ++ [(handle, uri)])
    | _ => return uris

/-- Whether a document that begins without a mark begins with this token. -/
def beginsBare : Token → Bool
  | .versionDirective .. | .tagDirective .. | .documentStart | .streamEnd => false
  | _ => true

/-- The tokens before which the document's node is not written. -/
def endsDocument : Token → Bool
  | .versionDirective .. | .tagDirective .. | .documentStart | .documentEnd | .streamEnd => true
  | _ => false

/-- Go past marks of document ends. -/
def skipEnds : Nat → Composer Unit
  | 0 => return ()
  | fuel + 1 => do
    if ← accept .documentEnd then skipEnds fuel

/-- The only document of a list of tokens. -/
def document (fuel : Nat) : Composer Document := do
  let first ← peek
  if first = .streamEnd then return ⟨.nothing, []⟩
  let root ← if beginsBare first then node true false fuel
    else do
      let uris ← directives fuel false []
      modify fun s => { s with tagUris := uris }
      if !(← accept .documentStart) then throw .illFormed
      if endsDocument (← peek) then pure .nothing else node true false fuel
  skipEnds fuel
  if (← peek) = .streamEnd then return ⟨root, (← get).anchored⟩
  else throw .severalDocuments

end Composer

/-- The only document of a text. -/
def Document.ofText (text : String) : Except Fault Document :=
  match Token.ofText? text with
  | none => .error .illFormed
  | some tokens => ((Composer.document (4 * tokens.length + 8)).run { tokens }).map (·.1)

/-- The node that an alias with this number stands for. -/
def Document.find? (d : Document) (number : Nat) : Option Node :=
  let named := d.anchored.filter (·.number = number)
  (named.foldl (fun best a => match best with
    | some b => if (b : Anchored).begins < a.begins then some a else some b
    | none => some a) none).map (·.node)

end Stepwise.Yaml
