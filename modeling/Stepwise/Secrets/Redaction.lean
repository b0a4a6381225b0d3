import Stepwise.Text.Utf8

/-!
# Redaction of a byte string

A secret is a byte string that must not be shown. `scan` goes through a buffer from left to right.
Where a secret starts, it takes the longest one and lets the span grow over every secret that starts
inside it; the span is replaced by one marker, and by one more on a new line for each newline that
the span has before its last byte. Other bytes are forwarded.

Before the end of the stream a scan also stops, at the first place whose rest is the beginning of a
longer secret, and at the start of a span inside which there is such a place: what comes next may
change what has to be hidden there.

* `Redaction.scan` (`scan`): what a buffer decides. `Redaction.redact` (`redact_bytes`): a whole
  text.
* `Redaction.longestMatch` (`longest_match`), `Redaction.couldComplete` (`could_complete`): what is
  asked at a place.
* `Redaction.spanLength` (`match_end`): how far a span reaches. `Redaction.replacement`
  (`push_marker`): what it is replaced by.
-/

namespace Stepwise.Redaction

/-- The text of the marker. -/
def markerText : String := "[REDACTED]"

/-- What is shown in place of a secret. -/
def marker : Bytes := Utf8.encode markerText

/-- The byte that ends a line. -/
def newline : UInt8 := 0x0A

/-- Whether `rest` is the beginning of a secret that goes on after it. -/
def couldComplete (secrets : List Bytes) (rest : Bytes) : Bool :=
  secrets.any fun s => rest.length < s.length && rest.isPrefixOf s

/-- The length of the longest secret at the front of `rest`, 0 if there is none. -/
def longestMatch (secrets : List Bytes) (rest : Bytes) : Nat :=
  ((secrets.filter (·.isPrefixOf rest)).map List.length).foldl max 0

/-- How far a span goes on: `rest` is what follows a place in the span, and the span is known to
take `known` bytes of it. `none` if a secret inside the span could still complete. -/
def growSpan (secrets : List Bytes) (atEnd : Bool) : Bytes → Nat → Option Nat
  | _, 0 => some 0
  | [], _ + 1 => some 0
  | b :: rest, known + 1 =>
    if !atEnd && couldComplete secrets (b :: rest) then none
    else
      let reach := max (known + 1) (longestMatch secrets (b :: rest))
      (growSpan secrets atEnd rest (reach - 1)).map (· + 1)

/-- The length of the span that begins with a secret of `length` bytes at the front of `buffer`. -/
def spanLength (secrets : List Bytes) (atEnd : Bool) (buffer : Bytes) (length : Nat) : Option Nat :=
  match buffer with
  | [] => some 0
  | _ :: rest => (growSpan secrets atEnd rest (length - 1)).map (· + 1)

/-- What is shown in place of a span. A newline that ends the span opens no line. -/
def replacement (span : Bytes) : Bytes :=
  marker ++ (List.replicate (span.dropLast.count newline) (newline :: marker)).flatten

/-- What a scan decides: the bytes to forward, and how many bytes of the buffer they stand for. -/
structure Decision where
  output : Bytes
  consumed : Nat
  deriving DecidableEq

/-- What is done at the front of a buffer. -/
inductive Move where
  /-- Wait for more bytes. -/
  | wait
  /-- Forward one byte. -/
  | forward
  /-- Replace a span of `extra + 1` bytes. -/
  | hide (extra : Nat)
  deriving DecidableEq

/-- What to do at the front of a buffer that is not empty. -/
def move (secrets : List Bytes) (atEnd : Bool) (buffer : Bytes) : Move :=
  if !atEnd && couldComplete secrets buffer then .wait
  else match longestMatch secrets buffer with
    | 0 => .forward
    | n + 1 => match spanLength secrets atEnd buffer (n + 1) with
      | some length => .hide (length - 1)
      | none => .wait

/-- Redact as much of a buffer as can be decided. -/
def scan (secrets : List Bytes) (atEnd : Bool) : Bytes → Decision
  | [] => ⟨[], 0⟩
  | b :: rest => match move secrets atEnd (b :: rest) with
    | .wait => ⟨[], 0⟩
    | .forward =>
      let d := scan secrets atEnd rest
      ⟨b :: d.output, d.consumed + 1⟩
    | .hide extra =>
      let d := scan secrets atEnd (rest.drop extra)
      ⟨replacement (b :: rest.take extra) ++ d.output, d.consumed + (extra + 1)⟩
termination_by buffer => buffer.length
decreasing_by
  · simp
  · simp only [List.length_drop, List.length_cons]; omega

/-- A whole byte string with its secrets hidden. -/
def redact (secrets : List Bytes) (input : Bytes) : Bytes :=
  (scan secrets true input).output

end Stepwise.Redaction
