/-!
# Text as bytes

Output is a stream of bytes and declarations are text, so text has to be written as bytes and read
back. Both directions are functions on lists, one character at a time.

* `Utf8.encode`: the bytes of a text.
* `Utf8.decode?`: the text of a byte string, when there is one.
* `Utf8.decodeLossy`: the same with U+FFFD for each fault. A fault is the longest run of bytes that
  begins a character without finishing it, or else a single byte.
-/

namespace Stepwise

/-- A byte string. -/
abbrev Bytes := List UInt8

namespace Utf8

/-- The bytes of a text. -/
def encode (text : String) : Bytes :=
  text.toList.flatMap String.utf8EncodeChar

/-- What a lead byte announces: how many bytes follow it, the range of the first of them, and the
bits of the character that the lead byte itself carries. -/
structure Lead where
  tails : Nat
  low : UInt8
  high : UInt8
  bits : Nat

/-- The announcement of a byte outside ASCII, if it can begin a character. -/
def lead? (b : UInt8) : Option Lead :=
  if b < 0xC2 then none
  else if b < 0xE0 then some ⟨1, 0x80, 0xBF, b.toNat - 0xC0⟩
  else if b = 0xE0 then some ⟨2, 0xA0, 0xBF, 0⟩
  else if b = 0xED then some ⟨2, 0x80, 0x9F, 0xD⟩
  else if b < 0xF0 then some ⟨2, 0x80, 0xBF, b.toNat - 0xE0⟩
  else if b = 0xF0 then some ⟨3, 0x90, 0xBF, 0⟩
  else if b < 0xF4 then some ⟨3, 0x80, 0xBF, b.toNat - 0xF0⟩
  else if b = 0xF4 then some ⟨3, 0x80, 0x8F, 4⟩
  else none

/-- Read the `n` bytes that a lead byte announced, the first of them between `low` and `high`.
`none` is a fault; the bytes read before it are part of it. -/
def tails : Nat → UInt8 → UInt8 → Nat → Bytes → Option Char × Bytes
  | 0, _, _, bits, rest => (some (Char.ofNat bits), rest)
  | _ + 1, _, _, _, [] => (none, [])
  | n + 1, low, high, bits, b :: rest =>
    if low ≤ b ∧ b ≤ high then tails n 0x80 0xBF (bits * 64 + (b.toNat - 0x80)) rest
    else (none, b :: rest)

theorem length_tails_le (n : Nat) (low high : UInt8) (bits : Nat) (rest : Bytes) :
    (tails n low high bits rest).2.length ≤ rest.length := by
  induction n generalizing low high bits rest with
  | zero => simp [tails]
  | succ n ih =>
    cases rest with
    | nil => simp [tails]
    | cons b rest =>
      unfold tails
      split
      · exact Nat.le_trans (ih _ _ _ rest) (Nat.le_succ _)
      · exact Nat.le_refl _

/-- The character or fault that begins with byte `b`, and the bytes after it. -/
def front (b : UInt8) (rest : Bytes) : Option Char × Bytes :=
  if b < 0x80 then (some (Char.ofNat b.toNat), rest)
  else match lead? b with
    | none => (none, rest)
    | some l => tails l.tails l.low l.high l.bits rest

theorem length_front_le (b : UInt8) (rest : Bytes) : (front b rest).2.length ≤ rest.length := by
  unfold front
  split
  · exact Nat.le_refl _
  · split
    · exact Nat.le_refl _
    · exact length_tails_le _ _ _ _ _

/-- The characters of a byte string in order, `none` for each fault. -/
def units : Bytes → List (Option Char)
  | [] => []
  | b :: rest => (front b rest).1 :: units (front b rest).2
termination_by bytes => bytes.length
decreasing_by exact Nat.lt_succ_of_le (length_front_le b rest)

/-- The text of a byte string that has no fault. -/
def decode? (bytes : Bytes) : Option String :=
  ((units bytes).mapM id).map String.ofList

/-- The character that stands for a fault. -/
def replacement : Char := '\uFFFD'

/-- The text of a byte string, each fault replaced. -/
def decodeLossy (bytes : Bytes) : String :=
  String.ofList ((units bytes).map (·.getD replacement))

end Utf8

end Stepwise
