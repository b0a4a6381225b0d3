import Stepwise.Value.Basic
import Stepwise.Text.Quoted

/-!
# Values in messages

A message shows a raw value with its kind, so that the text `"1"` and the number `1` differ:
`Null`, `Bool(true)`, `Number(1.5)`, `String("x")`, `Sequence [a, b]`, `Mapping {k: v}` and
`TaggedValue { tag: !t, value: v }`. Inside a mapping a key that is a text, a bool or a number is
shown without its kind.
-/

namespace Stepwise.Value

/-- A key as a mapping shows it, given how it is shown elsewhere. -/
def shownKey (full : String) : Value → String
  | .bool b => boolText b
  | .number n => n.text
  | .text s => Text.quoted s
  | _ => full

mutual

/-- A value as a message shows it. -/
def shown : Value → String
  | .null => "Null"
  | .bool b => "Bool(" ++ boolText b ++ ")"
  | .number n => "Number(" ++ n.text ++ ")"
  | .text s => "String(" ++ Text.quoted s ++ ")"
  | .sequence items => "Sequence [" ++ ", ".intercalate (shownItems items) ++ "]"
  | .mapping entries => "Mapping \x7b" ++ ", ".intercalate (shownEntries entries) ++ "\x7d"
  | .tagged tag v => "TaggedValue \x7b tag: " ++ tag ++ ", value: " ++ shown v ++ " \x7d"

/-- The values of a sequence as a message shows them. -/
def shownItems : List Value → List String
  | [] => []
  | v :: vs => shown v :: shownItems vs

/-- The entries of a mapping as a message shows them. -/
def shownEntries : List (Value × Value) → List String
  | [] => []
  | (k, v) :: rest => (shownKey (shown k) k ++ ": " ++ shown v) :: shownEntries rest

end

end Stepwise.Value
