import Stepwise.Value.Printer

/-!
# Declarations

A declaration (`EnvironmentItem`) sets, removes or leaves alone one environment variable. As written
it is a mapping with one entry for the variable and perhaps one entry for its options, under the key
`opts`. The mapping is kept as it is, and what is wrong with it is found only when it is used.

* `Declaration.binding` (`key_value_pair`): the variable's name and text, or the `Fault` that hides
  them. Faults are looked for in a fixed order: the number of entries, keys that are no text, no
  variable, two variables, an empty name, a value that is no text.
* `Declaration.displayKey` (`display_key`): the name that messages give to any declaration, faulty
  or not.
-/

namespace Stepwise

/-- A declaration as written: the entries of its mapping. -/
structure Declaration where
  entries : Value.Entries
  deriving Inhabited

namespace Declaration

/-- The key of the options entry. -/
def optionsKey : String := "opts"

/-- Why a declaration names no variable. -/
inductive Fault where
  | empty
  | tooManyKeys (keys : List String)
  | keyNotText (key : Value)
  | noVariable (keys : List String)
  | severalVariables (keys : List String)
  | emptyKey
  | valueNotText (kind : Value.Kind)

/-- A fault in words. -/
def Fault.message : Fault → String
  | .empty => "no environment key specified"
  | .tooManyKeys keys => "more than 2 keys specified: " ++ ", ".intercalate keys
  | .keyNotText key => "non-string key: " ++ key.shown
  | .noVariable keys => "no environment key found, keys: " ++ ", ".intercalate keys
  | .severalVariables keys => "more than 1 environment key specified: " ++ ", ".intercalate keys
  | .emptyKey => "environment key is empty"
  | .valueNotText kind => "value is not a string: " ++ kind.description

/-- A key in a list of keys: its text, or how a message shows it. -/
def keyName (key : Value) : String :=
  key.asText?.getD key.shown

/-- The names of all keys, sorted. -/
def sortedKeys (d : Declaration) : List String :=
  (d.entries.map fun e => keyName e.1).mergeSort (fun a b => decide (a ≤ b))

/-- Whether a key is the text of the options entry, tagged or not. -/
def isOptionsKey (key : Value) : Bool :=
  key.asText? = some optionsKey

/-- Whether a key can name a variable. -/
def isVariableKey (key : Value) : Bool :=
  key.asText?.isSome && !isOptionsKey key

/-- The first key that can name a variable, or else all keys between braces. -/
def displayKey (d : Declaration) : String :=
  match d.entries.find? fun e => isVariableKey e.1 with
  | some e => keyName e.1
  | none => "\x7b" ++ ", ".intercalate d.sortedKeys ++ "\x7d"

/-- The name and the text of a variable's entry. -/
def entryBinding (key value : Value) : Except Fault (String × String) :=
  if keyName key = "" then .error .emptyKey
  else match value.scalarText? with
    | some text => .ok (keyName key, text)
    | none => .error (.valueNotText value.kind)

/-- The name and the text of the variable that a declaration is about. -/
def binding (d : Declaration) : Except Fault (String × String) :=
  if d.entries.isEmpty then .error .empty
  else if 2 < d.entries.length then .error (.tooManyKeys d.sortedKeys)
  else match d.entries.find? fun e => e.1.asText?.isNone with
    | some e => .error (.keyNotText e.1)
    | none => match (d.entries.filter fun e => isVariableKey e.1).getLast? with
      | none => .error (.noVariable d.sortedKeys)
      | some e =>
        if 1 < d.entries.length && !d.entries.any (fun e => isOptionsKey e.1) then
          .error (.severalVariables d.sortedKeys)
        else entryBinding e.1 e.2

end Declaration

end Stepwise
