import Stepwise.Secrets.Redactor
import Stepwise.Secrets.Set

/-!
# Where the output of a process goes

A process writes to two streams. Whatever arrives on either is passed on chunk by chunk, in the
order of arrival, to one sink (`OutputSink`), which hides secrets or passes everything on as it is.
-/

namespace Stepwise

/-- The two streams that a process writes to. -/
inductive Stream where
  | output
  | error
  deriving DecidableEq, Inhabited

/-- Bytes that arrived on a stream. -/
structure Chunk where
  stream : Stream
  bytes : Bytes
  deriving DecidableEq

/-- The destination of both streams. -/
inductive Sink where
  | plain
  | redacting (redactor : Redactor)
  deriving DecidableEq

namespace Sink

/-- The sink that hides the given secrets, if there are any to hide. -/
def of : Option SecretSet → Sink
  | none => plain
  | some secrets => redacting { secrets := secrets.bytes }

/-- Accept bytes. Beside the new state come the bytes that are forwarded. -/
def write (bytes : Bytes) : Sink → Sink × Bytes
  | plain => (plain, bytes)
  | redacting r => (redacting (r.write bytes).1, (r.write bytes).2)

/-- Flush the destination. Beside the new state come the bytes that are forwarded. -/
def flush : Sink → Sink × Bytes
  | plain => (plain, [])
  | redacting r => (redacting (r.call .flush).1, (r.call .flush).2)

/-- The bytes that are forwarded at the end. -/
def finish : Sink → Bytes
  | plain => []
  | redacting r => r.close.2

/-- All the bytes that are forwarded for chunks in the order of their arrival. -/
def copy (sink : Sink) : List Chunk → Bytes
  | [] => sink.finish
  | c :: cs => (sink.write c.bytes).2 ++ copy (sink.write c.bytes).1 cs

end Sink

/-- What arrived on one of the streams. -/
def streamBytes (stream : Stream) (chunks : List Chunk) : Bytes :=
  (chunks.filter (·.stream = stream)).flatMap (·.bytes)

/-- What arrived, on whatever stream. -/
def mergedBytes (chunks : List Chunk) : Bytes :=
  chunks.flatMap (·.bytes)

end Stepwise
