import Stepwise.Decimal.Text

/-!
# Values of a declaration

A declaration is read from a document whose values are null, bools, numbers, texts, sequences,
mappings and values under a tag. A mapping keeps its entries in the order in which their keys were
first written.

* `Value.same`: when two values are the same key. The order of a mapping's entries does not matter.
* `Value.asText?` (`as_str`): the text of a key, which a tag does not hide.
* `Value.scalarText?` (in `key_value_pair`): the text of a value that can become the value of a
  variable.
-/

namespace Stepwise

/-- A whole or floating point number. -/
inductive Number where
  | int (value : Int)
  | float (value : Binary64)
  deriving DecidableEq, Inhabited

/-- Whether two numbers are the same key. A whole number is never the same as a floating point
one. -/
def Number.same : Number → Number → Bool
  | .int a, .int b => a = b
  | .float a, .float b => a.same b
  | _, _ => false

/-- The text of a number. -/
def Number.text : Number → String
  | .int n => toString n
  | .float x => x.text

/-- A value of a document. -/
inductive Value where
  | null
  | bool (value : Bool)
  | number (value : Number)
  | text (value : String)
  | sequence (items : List Value)
  | mapping (entries : List (Value × Value))
  | tagged (tag : String) (value : Value)
  deriving Inhabited

namespace Value

/-- The entries of a mapping. -/
abbrev Entries := List (Value × Value)

mutual

/-- Whether two values are the same key. -/
def same : Value → Value → Bool
  | .null, .null => true
  | .bool a, .bool b => a = b
  | .number a, .number b => a.same b
  | .text a, .text b => a = b
  | .sequence xs, .sequence ys => sameItems xs ys
  | .mapping xs, .mapping ys => xs.length = ys.length && entriesAmong xs ys
  | .tagged t a, .tagged u b => t = u && same a b
  | _, _ => false

/-- Whether two sequences hold the same values in the same order. -/
def sameItems : List Value → List Value → Bool
  | [], [] => true
  | x :: xs, y :: ys => same x y && sameItems xs ys
  | _, _ => false

/-- Whether every entry of the first mapping is one of the second. -/
def entriesAmong : List (Value × Value) → List (Value × Value) → Bool
  | [], _ => true
  | (k, v) :: xs, ys => ys.any (fun e => same k e.1 && same v e.2) && entriesAmong xs ys

end

/-- What a value is, for messages. -/
inductive Kind where
  | null
  | bool
  | number
  | text
  | sequence
  | mapping
  | tagged
  deriving DecidableEq

/-- A value's kind in words. -/
def Kind.description : Kind → String
  | .null => "null"
  | .bool => "a bool"
  | .number => "a number"
  | .text => "a string"
  | .sequence => "a sequence"
  | .mapping => "a mapping"
  | .tagged => "a tagged value"

/-- The kind of a value. -/
def kind : Value → Kind
  | .null => .null
  | .bool _ => .bool
  | .number _ => .number
  | .text _ => .text
  | .sequence _ => .sequence
  | .mapping _ => .mapping
  | .tagged .. => .tagged

/-- The text of a value that is a text, under any number of tags. -/
def asText? : Value → Option String
  | .text s => some s
  | .tagged _ v => v.asText?
  | _ => none

/-- The text of a value that is a text without a tag. -/
def plainText? : Value → Option String
  | .text s => some s
  | _ => none

/-- A bool as text. -/
def boolText (b : Bool) : String := if b then "true" else "false"

/-- The text of an untagged text, bool or number. -/
def wordText? : Value → Option String
  | .text s => some s
  | .bool b => some (boolText b)
  | .number n => some n.text
  | _ => none

/-- The text that a value gives to a variable: null is the empty text. -/
def scalarText? : Value → Option String
  | .null => some ""
  | v => v.wordText?

namespace Entries

/-- The value under a key. -/
def get? (entries : Entries) (key : Value) : Option Value :=
  (entries.find? fun e => key.same e.1).map (·.2)

/-- The entries with `value` under `key`: in the place of that key, or else at the end. -/
def insert (key value : Value) : Entries → Entries
  | [] => [(key, value)]
  | e :: rest => if key.same e.1 then (e.1, value) :: rest else e :: insert key value rest

/-- Entries from a list of pairs; of a key given twice, the first place and the last value. -/
def ofList (pairs : List (Value × Value)) : Entries :=
  pairs.foldl (fun entries e => entries.insert e.1 e.2) []

/-- Entries from a list of pairs with no key given twice. -/
def ofDistinct? (pairs : List (Value × Value)) : Option Entries :=
  pairs.foldlM
    (fun entries e => if (entries.get? e.1).isSome then none else some (entries ++ [e])) []

end Entries

theorem same_text_iff {s : String} {v : Value} : (Value.text s).same v = true ↔ v = .text s := by
  cases v <;> simp [same, eq_comm]

end Value

end Stepwise
