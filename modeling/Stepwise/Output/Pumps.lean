import Stepwise.Output.Sink

/-!
# Two pumps and one sink

The two streams of a process are read at the same time, each by a pump (`pump`) of its own. A pump
reads a piece of its stream, writes it to the sink that both share, and goes on like this to the end
of the stream. Then it flushes the sink and is done.

Who calls next, and how far a call gets, is not decided here: a read may give any part of what is
there, and a plain destination may take any part of what it is given. A `Turn` says both. One pump
at a time has the sink, so a call is one step. An interrupted read is tried again and is no turn.

* `Pumps.step`: one call of one pump. `Pumps.run`: calls in the order of their turns.
* `Pumps.reads`, `Pumps.writes`: the chunks as they are read, and as the sink gets them.
* `Pumps.result?`: what the destination was given, once both pumps are done and the sink is
  finished.
-/

namespace Stepwise

/-- The most bytes that one read gives. -/
def readLimit : Nat := 8192

/-- A pump between two calls. -/
structure Pump where
  /-- What is still to come from the stream. -/
  unread : Bytes
  /-- What was read and is not written yet. -/
  buffer : Bytes := []
  done : Bool := false
  deriving DecidableEq

namespace Pump

/-- A call that a pump makes. -/
inductive Call where
  | read (bytes : Bytes)
  | write (bytes : Bytes)
  /-- Flush the sink at the end of the stream. -/
  | flush
  /-- Nothing is left to be called. -/
  | none
  deriving DecidableEq

/-- A pump after a call. -/
def after (p : Pump) : Call → Pump
  | .read bytes => { p with unread := p.unread.drop bytes.length, buffer := bytes }
  | .write bytes => { p with buffer := p.buffer.drop bytes.length }
  | .flush => { p with done := true }
  | .none => p

end Pump

/-- What a sink does for a call of a pump. -/
def Sink.answer (sink : Sink) : Pump.Call → Sink × Bytes
  | .write bytes => sink.write bytes
  | .flush => sink.flush
  | .read _ | .none => (sink, [])

/-- Which pump calls next, and how many bytes more than one the call may move. -/
structure Turn where
  stream : Stream
  extra : Nat
  deriving DecidableEq

/-- Two pumps with the sink that they share. -/
structure Pumps where
  pumps : Stream → Pump
  sink : Sink
  /-- Whether the writes of the pumps are watched. A watched pump gives the sink back after every
  write call, another one when all of its piece is written. -/
  watched : Bool
  /-- What the destination was given. -/
  forwarded : Bytes := []

namespace Pumps

/-- The pumps before their first call. -/
def start (secrets : Option SecretSet) (watched : Bool) (streams : Stream → Bytes) : Pumps where
  pumps stream := { unread := streams stream }
  sink := .of secrets
  watched

/-- What a pump that has the sink writes of its buffer. A redactor takes all of it; a plain
destination takes one byte at least. -/
def taken (p : Pumps) (extra : Nat) (buffer : Bytes) : Bytes :=
  match p.sink with
  | .redacting _ => buffer
  | .plain => if p.watched then buffer.take (extra + 1) else buffer

/-- The call of a turn. -/
def call (p : Pumps) (t : Turn) : Pump.Call :=
  let pump := p.pumps t.stream
  if pump.done then .none
  else if pump.buffer ≠ [] then .write (p.taken t.extra pump.buffer)
  else if pump.unread ≠ [] then .read (pump.unread.take (min (t.extra + 1) readLimit))
  else .flush

/-- The state after a turn. -/
def step (p : Pumps) (t : Turn) : Pumps :=
  let c := p.call t
  let (sink, out) := p.sink.answer c
  { p with
    pumps := fun stream => if stream = t.stream then (p.pumps stream).after c else p.pumps stream
    sink
    forwarded := p.forwarded ++ out }

/-- The state after turns, one after the other. -/
def run (p : Pumps) (turns : List Turn) : Pumps := turns.foldl step p

/-- The calls of turns, in order. -/
def calls (p : Pumps) : List Turn → List (Stream × Pump.Call)
  | [] => []
  | t :: turns => (t.stream, p.call t) :: (p.step t).calls turns

/-- The chunk that a call reads. -/
def readBy? : Stream × Pump.Call → Option Chunk
  | (stream, .read bytes) => some ⟨stream, bytes⟩
  | _ => none

/-- The chunk that a call writes. -/
def writtenBy? : Stream × Pump.Call → Option Chunk
  | (stream, .write bytes) => some ⟨stream, bytes⟩
  | _ => none

/-- The chunks as the pumps read them. -/
def reads (p : Pumps) (turns : List Turn) : List Chunk := (p.calls turns).filterMap readBy?

/-- The chunks as the sink gets them. -/
def writes (p : Pumps) (turns : List Turn) : List Chunk := (p.calls turns).filterMap writtenBy?

/-- What the destination was given in the end, once both pumps are done. -/
def result? (p : Pumps) : Option Bytes :=
  if (p.pumps .output).done && (p.pumps .error).done then some (p.forwarded ++ p.sink.finish)
  else none

end Pumps

end Stepwise
