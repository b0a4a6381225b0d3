import Stepwise.Declaration.Basic
import Stepwise.Yaml.Node
import Stepwise.Yaml.Word

/-!
# Readers of a YAML document

A `Reader` gives the value of a node, or the fault that the node has another type. Readers follow
aliases, and the number of aliases that one document may have followed is limited, as is the depth
to which nodes may be nested.

* `Reader.value`: any value. A tag that begins with `!` stays with the value; one of the standard
  tags decides about the type.
* `Reader.text`, `Reader.switch`, `Reader.count`: a scalar of one type. A text is what the document
  shows, whatever a plain word would mean.
* `Reader.list`, `Reader.pairs`, `Reader.record`: collections. Where nothing is written they are
  empty, and an explicit null is a fault.
* `Reader.run`: the reading of a whole text.
-/

namespace Stepwise.Yaml

/-- A computation that follows aliases of a document, as long as some are left. -/
abbrev Decoder := ReaderT Document (StateT Nat (Except Fault))

/-- Reads a node that may hold collections to a certain depth. -/
abbrev Reader (α : Type) := (depth : Nat) → Node → Decoder α

namespace Reader

variable {α : Type}

/-- The number of collections that may be nested. -/
def maxDepth : Nat := 128

/-- The node that an alias stands for, or the node itself. -/
def follow (node : Node) : Decoder Node := do
  match node with
  | .alias number =>
    match ← get with
    | 0 => throw .tooLarge
    | left + 1 =>
      set left
      match (← read).find? number with
      | some target => return target
      | none => throw .unknownAnchor
  | _ => return node

/-- Whether nothing is written for a node. -/
def isBlank : Node → Bool
  | .scalar _ style text => style = .plain && text = ""
  | _ => false

/-- The start of the standard tags. -/
def standardTag (name : String) : String := "tag:yaml.org,2002:" ++ name

/-! ## Scalars -/

/-- The text of a scalar. -/
def text : Reader String := fun _ node => do
  match ← follow node with
  | .scalar _ _ text => return text
  | _ => throw .wrongType

/-- The word of a scalar that may denote a value of the type with a standard tag. -/
def word (name : String) (node : Node) : Decoder String := do
  match ← follow node with
  | .scalar tag style text =>
    if style = .plain || (style = .literal && tag = some (standardTag name)) then return text
    else throw .wrongType
  | _ => throw .wrongType

/-- A bool. -/
def switch : Reader Bool := fun _ node => do
  match boolOfWord? (← word "bool" node) with
  | some b => return b
  | none => throw .wrongType

/-- A whole number below 2 ^ 64. -/
def count : Reader Nat := fun _ node => do
  match natOfWord? (← word "int" node) with
  | some n => if n < Nat.pow 2 64 then return n else throw .wrongType
  | none => throw .wrongType

/-- Whether a scalar says that there is no value. -/
def isAbsent (tag : Option String) (style : Style) (text : String) : Decoder Bool := do
  if style ≠ .plain then return false
  match tag with
  | none => return text = "" || isNullWord text
  | some tag =>
    if tag ≠ standardTag "null" then return false
    if isNullWord text then return true else throw .wrongType

/-- A value that may be missing. -/
def optional (reader : Reader α) : Reader (Option α) := fun depth node => do
  match ← follow node with
  | .scalar tag style text =>
    if ← isAbsent tag style text then return none
    else some <$> reader depth (.scalar tag style text)
  | node => some <$> reader depth node

/-! ## Collections -/

/-- The entries of a list. -/
def list (reader : Reader α) : Reader (List α) := fun depth node => do
  match ← follow node, depth with
  | .sequence _ items, d + 1 => items.mapM (reader d)
  | .sequence .., 0 => throw .tooLarge
  | node, _ => if isBlank node then return [] else throw .wrongType

/-- The entries of a mapping from texts to texts, as written. -/
def pairs : Reader (List (String × String)) := fun depth node => do
  match ← follow node, depth with
  | .mapping _ entries, d + 1 => entries.mapM fun (k, v) => return (← text d k, ← text d v)
  | .mapping .., 0 => throw .tooLarge
  | node, _ => if isBlank node then return [] else throw .wrongType

/-- The entries of a record under its names; others are passed over. -/
def namedEntries (names : List String) (depth : Nat) :
    List (Node × Node) → Decoder (List (String × Node))
  | [] => return []
  | (k, v) :: rest => do
    let name ← text depth k
    let others ← namedEntries names depth rest
    if name ∉ names then return others
    else if (others.lookup name).isSome then throw .duplicate
    else return (name, v) :: others

/-- A record with named fields, built from a look-up of their nodes. A sequence gives the fields in
the order of their names. -/
def record (names : List String) (build : Nat → (String → Option Node) → Decoder α) : Reader α :=
  fun depth node => do
    match ← follow node, depth with
    | .mapping _ entries, d + 1 =>
      let fields ← namedEntries names d entries
      build d fun name => fields.lookup name
    | .sequence _ items, d + 1 =>
      if names.length < items.length then throw .wrongType
      build d fun name => (names.zip items).lookup name
    | .mapping .., 0 | .sequence .., 0 => throw .tooLarge
    | node, d => if isBlank node then build d fun _ => none else throw .wrongType

/-- A field of a record, or its default. -/
def field (reader : Reader α) (default : α) (depth : Nat) (node : Option Node) : Decoder α :=
  match node with
  | some node => reader depth node
  | none => return default

/-! ## Values -/

/-- The name of a tag of the document's own, as it is shown. -/
def localTag? (tag : String) : Option String :=
  match tag.toList with
  | ['!'] => some "!!"
  | ['!', '!'] => some "!!"
  | '!' :: '!' :: cs => some (String.ofList ('!' :: cs))
  | '!' :: cs => some (String.ofList ('!' :: cs))
  | _ => none

/-- The value of a scalar without a tag of the document's own. -/
def scalarValue (style : Style) (text : String) : Decoder Value :=
  if style = .plain then
    match valueOfWord? text with
    | some v => return v
    | none => throw .wrongType
  else return .text text

/-- The value of a scalar under a tag that is not the document's own. -/
def standardValue (tag text : String) : Decoder Value := do
  let found : Option Value :=
    if tag = standardTag "bool" then (boolOfWord? text).map .bool
    else if tag = standardTag "int" then (wholeOfWord? text).join.map .number
    else if tag = standardTag "float" then (floatOfWord? text).map fun x => .number (.float x)
    else if tag = standardTag "null" then (if isNullWord text then some .null else none)
    else some (.text text)
  match found with
  | some v => return v
  | none => throw .wrongType

/-- A value under the tag of its node, if that is one of the document's own. -/
def underTag (tag : Option String) (v : Value) : Value :=
  match tag.bind localTag? with
  | some name => .tagged name v
  | none => v

/-- Entries of a mapping, in which no key may be repeated. -/
def distinct (entries : List (Value × Value)) : Decoder Value.Entries :=
  match Value.Entries.ofDistinct? entries with
  | some entries => return entries
  | none => throw .duplicate

/-- Any value. -/
def value : Reader Value
  | 0, node => do
    match ← follow node with
    | .scalar tag style text => scalar tag style text
    | _ => throw .tooLarge
  | depth + 1, node => do
    match ← follow node with
    | .scalar tag style text => scalar tag style text
    | .sequence tag items => return underTag tag (.sequence (← items.mapM (value depth)))
    | .mapping tag entries =>
      let read ← entries.mapM fun (k, v) => return (← value depth k, ← value depth v)
      return underTag tag (.mapping (← distinct read))
    | .alias _ => throw .unknownAnchor
where
  /-- The value of a scalar. -/
  scalar (tag : Option String) (style : Style) (text : String) : Decoder Value := do
    match tag with
    | none => scalarValue style text
    | some t => match localTag? t with
      | some name => return .tagged name (← scalarValue style text)
      | none => standardValue t text

/-- A declaration: a mapping in which no key is repeated. -/
def declaration : Reader Declaration := fun depth node => do
  match ← follow node, depth with
  | .mapping _ entries, d + 1 =>
    let read ← entries.mapM fun (k, v) => return (← value d k, ← value d v)
    return ⟨← distinct read⟩
  | .mapping .., 0 => throw .tooLarge
  | node, _ => if isBlank node then return ⟨[]⟩ else throw .wrongType

/-! ## Whole texts -/

/-- The number of aliases of a document that may be followed. -/
def maxAliases (d : Document) : Nat := 100 * d.root.eventCount

/-- Read a text. -/
def run (reader : Reader α) (text : String) : Except Fault α := do
  let d ← Document.ofText text
  let (result, _) ← ((reader maxDepth d.root).run d).run (maxAliases d)
  return result

end Reader

end Stepwise.Yaml
