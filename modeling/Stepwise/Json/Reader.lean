import Stepwise.Declaration.Options
import Stepwise.Json.Number

/-!
# Readers of a JSON document

A reader gives the value of a document, or nothing if the document has another form. A record with
named fields may be written as an object, in which none of its names is repeated and other names do
not count, or as an array of the fields in their order.

* `Json.value?`: any value, nested to a limited depth. An object becomes a mapping in which no key
  is repeated.
* `Json.record?`: the fields of a record.
* `Declaration.ofJson?`, `Options.ofJson?`: declarations, and options in the strict reading.
-/

namespace Stepwise

namespace Json

/-- The number of arrays and objects that may be nested. -/
def maxDepth : Nat := 127

/-- A value. -/
def value? : Nat → Json → Option Value
  | _, .null => some .null
  | _, .bool b => some (.bool b)
  | _, .number n => n.value?.map .number
  | _, .text s => s.map .text
  | 0, .array _ | 0, .object _ => none
  | depth + 1, .array items => (items.mapM (value? depth)).map .sequence
  | depth + 1, .object fields => do
    let entries ← fields.mapM fun (name, v) => return (.text (← name), ← value? depth v)
    (Value.Entries.ofDistinct? entries).map .mapping

/-- The text of a text. -/
def text? : Json → Option String
  | .text s => s
  | _ => none

/-- The whole number of a number, if it lies between two bounds. -/
def int? (low high : Int) : Json → Option Int
  | .number n => n.whole?.filter fun i => low ≤ i && i ≤ high
  | _ => none

/-- The items of an array, each read. -/
def list? {α : Type} (read : Json → Option α) : Json → Option (List α)
  | .array items => items.mapM read
  | _ => none

/-- The fields of a record, each under its name. -/
def record? (names : List String) : Json → Option (List (String × Json))
  | .object fields => do
    let named ← fields.mapM fun (name, v) => name.map (·, v)
    let known := named.filter (·.1 ∈ names)
    if known.length = (known.map (·.1)).eraseDups.length then some known else none
  | .array items => if names.length < items.length then none else some (names.zip items)
  | _ => none

/-- A field that may be missing. -/
def optional? {α : Type} (read : Json → Option α) (default : α) : Option Json → Option α
  | none => some default
  | some v => read v

end Json

/-- The declaration of a document. -/
def Declaration.ofJson? (document : Json) : Option Declaration :=
  match Json.value? Json.maxDepth document with
  | some (.mapping entries) => some ⟨entries⟩
  | _ => none

/-- The options of a document in the strict reading. -/
def Options.ofJson? (document : Json) : Option Options := do
  let fields ← document.record? Options.names
  let pairs ← fields.mapM fun (name, v) => return (name, ← v.value? Json.maxDepth)
  Options.decodeNamed? pairs

end Stepwise
