/-!
# JSON documents

A document is read as it is written: the fields of an object keep their order and may be repeated,
and a number keeps its digits. A text that no characters denote, because an escape stands for half a
character, is kept as such a text, since it does no harm where nobody looks at it.

* `Json.ofText?`: the document of a text.
-/

namespace Stepwise

/-- A number as written. -/
structure NumberText where
  negative : Bool
  whole : List Char
  /-- The digits after the point; empty if there is no point. -/
  fraction : List Char
  /-- Whether the exponent is negative, and its digits. -/
  exponent : Option (Bool × List Char)
  deriving DecidableEq

/-- A document. -/
inductive Json where
  | null
  | bool (value : Bool)
  | number (value : NumberText)
  | text (value : Option String)
  | array (items : List Json)
  | object (fields : List (Option String × Json))
  deriving Inhabited

namespace Json

/-- Whether a character stands between words. -/
def isGap (c : Char) : Bool := c = ' ' || c = '\n' || c = '\t' || c = '\r'

/-- What follows the space between words. -/
def skipGap (cs : List Char) : List Char := cs.dropWhile isGap

/-- Read a word. -/
def readWord {α : Type} (word : String) (value : α) (cs : List Char) : Option (α × List Char) :=
  if word.toList.isPrefixOf cs then some (value, cs.drop word.length) else none

/-- Read digits, of which there has to be one. -/
def readDigits (cs : List Char) : Option (List Char × List Char) :=
  let ds := cs.takeWhile Char.isDigit
  if ds.isEmpty then none else some (ds, cs.dropWhile Char.isDigit)

/-- Read the digits after a point. -/
def readFraction : List Char → Option (List Char × List Char)
  | '.' :: cs => readDigits cs
  | cs => some ([], cs)

/-- Read an exponent. -/
def readExponent : List Char → Option ((Option (Bool × List Char)) × List Char)
  | c :: cs =>
    if c = 'e' || c = 'E' then
      let (negative, cs) := match cs with
        | '-' :: cs => (true, cs)
        | '+' :: cs => (false, cs)
        | cs => (false, cs)
      (readDigits cs).map fun (ds, cs) => (some (negative, ds), cs)
    else some (none, c :: cs)
  | [] => some (none, [])

/-- Read an unsigned number. A zero may stand in front of no other digit. -/
def readNumber (negative : Bool) (cs : List Char) : Option (Json × List Char) := do
  let (whole, cs) ← readDigits cs
  if whole.head? = some '0' && whole.length ≠ 1 then none
  let (fraction, cs) ← readFraction cs
  let (exponent, cs) ← readExponent cs
  some (.number ⟨negative, whole, fraction, exponent⟩, cs)

/-! ## Texts -/

/-- The value of a hexadecimal digit. -/
def hexValue? (c : Char) : Option Nat :=
  if c.isDigit then some (c.toNat - '0'.toNat)
  else if 'a' ≤ c && c ≤ 'f' then some (c.toNat - 'a'.toNat + 10)
  else if 'A' ≤ c && c ≤ 'F' then some (c.toNat - 'A'.toNat + 10)
  else none

/-- Read four hexadecimal digits. -/
def readUnit : List Char → Option (Nat × List Char)
  | a :: b :: c :: d :: cs => do
    let a ← hexValue? a
    let b ← hexValue? b
    let c ← hexValue? c
    let d ← hexValue? d
    some (((a * 16 + b) * 16 + c) * 16 + d, cs)
  | _ => none

/-- The characters that an escape of one letter stands for. -/
def escapes : List (Char × Char) :=
  [('"', '"'), ('\\', '\\'), ('/', '/'), ('b', '\x08'), ('f', '\x0c'), ('n', '\n'), ('r', '\r'),
   ('t', '\t')]

def isHighHalf (n : Nat) : Bool := 0xD800 ≤ n && n ≤ 0xDBFF

def isLowHalf (n : Nat) : Bool := 0xDC00 ≤ n && n ≤ 0xDFFF

/-- A character or half a character of a text. -/
abbrev Half := Nat ⊕ Char

/-- The characters of a text, in which two halves make one. -/
def joinHalves : List Half → Option (List Char)
  | [] => some []
  | .inr c :: rest => (joinHalves rest).map (c :: ·)
  | .inl high :: .inl low :: rest =>
    if isHighHalf high && isLowHalf low then
      (joinHalves rest).map
        (Char.ofNat (0x10000 + (high - 0xD800) * 0x400 + (low - 0xDC00)) :: ·)
    else none
  | .inl _ :: _ => none

/-- Read the rest of a text, after its first quote. -/
def readText : Nat → List Char → Option (List Half × List Char)
  | 0, _ => none
  | _ + 1, [] => none
  | _ + 1, '"' :: cs => some ([], cs)
  | fuel + 1, '\\' :: 'u' :: cs => do
    let (n, cs) ← readUnit cs
    let unit : Half := if isHighHalf n || isLowHalf n then .inl n else .inr (Char.ofNat n)
    let (rest, cs) ← readText fuel cs
    some (unit :: rest, cs)
  | fuel + 1, '\\' :: c :: cs => do
    let c ← escapes.lookup c
    let (rest, cs) ← readText fuel cs
    some (.inr c :: rest, cs)
  | fuel + 1, c :: cs =>
    if c.toNat < 0x20 || c = '\\' then none
    else (readText fuel cs).map fun (rest, cs) => (.inr c :: rest, cs)

/-- Read a text after its first quote. -/
def readString (cs : List Char) : Option (Option String × List Char) :=
  (readText (cs.length + 1) cs).map fun (halves, cs) => ((joinHalves halves).map String.ofList, cs)

/-! ## Documents -/

mutual

/-- Read a document. -/
def read : Nat → List Char → Option (Json × List Char)
  | 0, _ => none
  | fuel + 1, cs => match skipGap cs with
    | 'n' :: cs => readWord "ull" null cs
    | 't' :: cs => readWord "rue" (bool true) cs
    | 'f' :: cs => readWord "alse" (bool false) cs
    | '"' :: cs => (readString cs).map fun (s, cs) => (text s, cs)
    | '[' :: cs => (readItems fuel true cs).map fun (items, cs) => (array items, cs)
    | '{' :: cs => (readFields fuel true cs).map fun (fields, cs) => (object fields, cs)
    | '-' :: cs => readNumber true cs
    | cs => readNumber false cs

/-- Read the items of an array from its bracket or an item on. -/
def readItems : Nat → Bool → List Char → Option (List Json × List Char)
  | 0, _, _ => none
  | fuel + 1, first, cs => do
    match skipGap cs with
    | ']' :: cs => some ([], cs)
    | cs =>
      let cs ← if first then some cs else match cs with
        | ',' :: cs => some cs
        | _ => none
      let (item, cs) ← read fuel cs
      let (items, cs) ← readItems fuel false cs
      some (item :: items, cs)

/-- Read the fields of an object from its brace or a field on. -/
def readFields : Nat → Bool → List Char → Option ((List (Option String × Json)) × List Char)
  | 0, _, _ => none
  | fuel + 1, first, cs => do
    match skipGap cs with
    | '}' :: cs => some ([], cs)
    | cs =>
      let cs ← if first then some cs else match cs with
        | ',' :: cs => some (skipGap cs)
        | _ => none
      let (name, cs) ← match cs with
        | '"' :: cs => readString cs
        | _ => none
      let cs ← match skipGap cs with
        | ':' :: cs => some cs
        | _ => none
      let (value, cs) ← read fuel cs
      let (fields, cs) ← readFields fuel false cs
      some ((name, value) :: fields, cs)

end

/-- The document of a text, with nothing but space after it. -/
def ofText? (text : String) : Option Json := do
  let cs := text.toList
  let (document, rest) ← read (2 * cs.length + 2) cs
  if (skipGap rest).isEmpty then some document else none

end Json

end Stepwise
