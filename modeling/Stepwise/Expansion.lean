import Stepwise.Text.Utf8

/-!
# Expansion of references

The value of a declaration may refer to variables:

* `$NAME`, where the name is the longest run of ASCII letters, digits and `_`;
* `${NAME}`, where the name is anything up to the first closing brace;
* `$*`, `$#`, `$$`, `$@`, `$!`, `$?`, `$-` and `$0` to `$9`, names of one character.

A `$` before anything else, or at the end, stays. `${}` and the two characters of a `${` without a
closing brace are dropped. What a reference is replaced by is not expanded again.

The work (`expand`) is done on the bytes of the text. `Expansion.readName` (`shell_name`) reads what
follows a `$`. `Expansion.cut` cuts the bytes into segments without looking at any variable, so
which names are asked for does not depend on the answers. `Expansion.expandM` is the same work in
one pass, for a mapping with effects.
-/

namespace Stepwise.Expansion

/-- The byte `$`. -/
def dollar : UInt8 := 0x24

/-- The byte `{`. -/
def openBrace : UInt8 := 0x7B

/-- The byte `}`. -/
def closeBrace : UInt8 := 0x7D

/-- Whether a byte is a digit. -/
def isDigit (b : UInt8) : Bool := 0x30 ≤ b && b ≤ 0x39

/-- Whether a byte is a name of its own: one of `* # $ @ ! ? -` or a digit. -/
def isSpecial (b : UInt8) : Bool :=
  b ∈ [0x2A, 0x23, 0x24, 0x40, 0x21, 0x3F, 0x2D] || isDigit b

/-- Whether a byte belongs to a plain name. -/
def isNameByte (b : UInt8) : Bool :=
  (0x41 ≤ b && b ≤ 0x5A) || (0x61 ≤ b && b ≤ 0x7A) || isDigit b || b = 0x5F

/-- What follows a `$`: the name, if there is one, and how many bytes belong to the reference. -/
structure Reading where
  name : Option Bytes
  width : Nat
  deriving DecidableEq

/-- Read what follows a `${`. -/
def readBraced (rest : Bytes) : Reading :=
  let name := rest.takeWhile (· != closeBrace)
  if name.length = rest.length then ⟨none, 1⟩
  else if name.isEmpty then ⟨none, 2⟩
  else ⟨some name, name.length + 2⟩

/-- Read what follows a `$`. -/
def readName : Bytes → Reading
  | [] => ⟨none, 0⟩
  | b :: rest =>
    if b = openBrace then readBraced rest
    else if isSpecial b then ⟨some [b], 1⟩
    else
      let name := (b :: rest).takeWhile isNameByte
      if name.isEmpty then ⟨none, 0⟩ else ⟨some name, name.length⟩

/-- A piece of a text to expand. -/
inductive Segment where
  /-- Bytes that stay. -/
  | text (bytes : Bytes)
  /-- A `$` that begins no reference and stays. -/
  | lone
  /-- A reference without a name, which is dropped. -/
  | dropped
  /-- A reference. -/
  | reference (name : Bytes)
  deriving DecidableEq

/-- The segment of a `$`, by what follows it. -/
def Reading.segment (r : Reading) : Segment :=
  match r.name with
  | some name => .reference name
  | none => if r.width = 0 then .lone else .dropped

theorem length_dropWhile_le (p : UInt8 → Bool) (bytes : Bytes) :
    (bytes.dropWhile p).length ≤ bytes.length :=
  (List.dropWhile_sublist p).length_le

/-- Cut a text into segments, left to right. A `$` counts only if something follows it. -/
def cut (input : Bytes) : List Segment :=
  match _h : input.dropWhile (· != dollar) with
  | _ :: b :: rest =>
    let r := readName (b :: rest)
    .text (input.takeWhile (· != dollar)) :: r.segment :: cut ((b :: rest).drop r.width)
  | _ => [.text input]
termination_by input.length
decreasing_by
  have := length_dropWhile_le (· != dollar) input
  rw [_h] at this
  simp only [List.length_cons, List.length_drop] at this ⊢
  omega

/-- What a segment becomes. -/
def Segment.render (mapping : Bytes → Bytes) : Segment → Bytes
  | .text bytes => bytes
  | .lone => [dollar]
  | .dropped => []
  | .reference name => mapping name

/-- The name that a segment refers to. -/
def Segment.name? : Segment → Option Bytes
  | .reference name => some name
  | _ => none

/-- The bytes of a text with its references replaced. -/
def expandBytes (mapping : Bytes → Bytes) (input : Bytes) : Bytes :=
  (cut input).flatMap (·.render mapping)

/-- The names that a text refers to, in order. -/
def references (input : String) : List String :=
  ((cut (Utf8.encode input)).filterMap Segment.name?).map Utf8.decodeLossy

/-- A text with its references replaced by what `mapping` says of their names. -/
def expand (mapping : String → String) (input : String) : String :=
  Utf8.decodeLossy
    (expandBytes (fun name => Utf8.encode (mapping (Utf8.decodeLossy name))) (Utf8.encode input))

section

variable {m : Type → Type u} [Monad m]

/-- Replace the references of a text in one pass, by a mapping that may do more than answer.
`output` is what was written before. A name is asked for when the text has been read up to there,
and the pass goes on with the answer. -/
def expandFrom (mapping : Bytes → m Bytes) (output input : Bytes) : m Bytes :=
  match _h : input.dropWhile (· != dollar) with
  | _ :: b :: rest =>
    let r := readName (b :: rest)
    let written := output ++ input.takeWhile (· != dollar)
    let remaining := (b :: rest).drop r.width
    match r.name with
    | none => expandFrom mapping (if r.width = 0 then written ++ [dollar] else written) remaining
    | some name => do
      let value ← mapping name
      expandFrom mapping (written ++ value) remaining
  | _ => pure (output ++ input)
termination_by input.length
decreasing_by
  all_goals
    have := length_dropWhile_le (· != dollar) input
    rw [_h] at this
    simp only [List.length_cons, List.length_drop] at this ⊢
    omega

/-- A mapping of names, asked in bytes. -/
def inBytes (mapping : String → m String) (name : Bytes) : m Bytes :=
  Utf8.encode <$> mapping (Utf8.decodeLossy name)

/-- A text with its references replaced by a mapping that may do more than answer. -/
def expandM (mapping : String → m String) (input : String) : m String :=
  Utf8.decodeLossy <$> expandFrom (inBytes mapping) [] (Utf8.encode input)

end

end Stepwise.Expansion
