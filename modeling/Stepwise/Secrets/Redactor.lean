import Stepwise.Secrets.Redaction

/-!
# Redaction of a stream

A `Redactor` (`RedactingWriter`) stands in front of a writer. Bytes that could still turn out to be
part of a secret are held back until later bytes decide about them, or until the stream is closed.
Flushing does not release them. A redactor without secrets holds nothing back.
-/

namespace Stepwise

/-- A stream whose secrets are hidden. -/
structure Redactor where
  secrets : List Bytes
  /-- The bytes that are held back. -/
  pending : Bytes := []
  deriving DecidableEq

namespace Redactor

/-- Forward what a scan of the held bytes decides. -/
def drain (r : Redactor) (atEnd : Bool) : Redactor × Bytes :=
  let d := Redaction.scan r.secrets atEnd r.pending
  ({ r with pending := r.pending.drop d.consumed }, d.output)

/-- Accept bytes. Beside the new state come the bytes that are forwarded. -/
def write (r : Redactor) (bytes : Bytes) : Redactor × Bytes :=
  if r.secrets.isEmpty then (r, bytes)
  else { r with pending := r.pending ++ bytes }.drain false

/-- Release what is held, redacted as the end of the stream. -/
def close (r : Redactor) : Redactor × Bytes :=
  r.drain true

/-- One use of a stream. -/
inductive Call where
  | write (bytes : Bytes)
  | flush
  | close
  deriving DecidableEq

/-- The state after a call, and the bytes that it forwards. -/
def call (r : Redactor) : Call → Redactor × Bytes
  | .write bytes => r.write bytes
  | .flush => (r, [])
  | .close => r.close

/-- The state after a list of calls, and all the bytes that they forward. -/
def run (r : Redactor) : List Call → Redactor × Bytes
  | [] => (r, [])
  | c :: cs =>
    let (r₁, out₁) := r.call c
    let (r₂, out₂) := r₁.run cs
    (r₂, out₁ ++ out₂)

end Redactor

end Stepwise
