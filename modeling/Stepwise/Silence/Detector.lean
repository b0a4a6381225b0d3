import Stepwise.Silence.Duration

/-!
# Detection of silence

A step that writes nothing for too long is taken to hang. The detector (`HangDetector`) counts
ticks; each write through a watched writer sets the count back to zero. When a tick brings the count
to the limit, the detector sends one notification and stops by itself. A detector with limit 0 fires
at its first tick.

The first start begins a routine that takes the ticks and counts them; later starts do nothing, and
once stopped a detector stays stopped. The count is a word of 64 bits.

* `Detector.step`: the state after an event, and whether the event sends the notification.
* `Detector.withTimeout` (`with_timeout`): the detector of a time without output.
* `Detector.tickLimit`: how many ticks make up a time without output.
-/

namespace Stepwise

/-- The greatest number that a count can hold. -/
def maxCount : Nat := Nat.pow 2 64 - 1

/-- A count after one more; after the greatest number it is 0 again. -/
def countAfter (count : Nat) : Nat := (count + 1) % (maxCount + 1)

/-- A detector of silence. -/
structure Detector where
  limit : Nat
  /-- Ticks since the start or the last write. -/
  ticks : Nat := 0
  started : Bool := false
  /-- How many routines were begun that count ticks. -/
  routines : Nat := 0
  stopped : Bool := false
  /-- Whether a notification was sent and not yet received. -/
  waiting : Bool := false
  deriving DecidableEq, Inhabited

namespace Detector

/-- Whole ticks of length `interval` in `timeout`, as far as a count can hold them; 0 for an empty
interval. -/
def tickLimit (timeout interval : Duration) : Nat :=
  min (timeout.nanos / interval.nanos) maxCount

/-- The detector for a time without output. -/
def withTimeout (timeout interval : Duration) : Detector :=
  { limit := tickLimit timeout interval }

/-- What happens to a detector. -/
inductive Event where
  | start
  | stop
  /-- The ticker delivers a tick. -/
  | tick
  /-- Something is written through a watched writer. -/
  | write
  deriving DecidableEq

/-- Whether ticks are counted. -/
def isRunning (d : Detector) : Bool := 0 < d.routines && !d.stopped

/-- Whether a tick that is counted brings the count to the limit. -/
def reachesLimit (d : Detector) : Bool := d.limit ≤ countAfter d.ticks

/-- Whether the next tick sends the notification. -/
def firesNext (d : Detector) : Bool := d.isRunning && d.reachesLimit

/-- The state after an event. One routine takes each tick, however many there are. -/
def after (d : Detector) : Event → Detector
  | .start => if d.started then d else { d with started := true, routines := d.routines + 1 }
  | .stop => { d with stopped := true }
  | .write => { d with ticks := 0 }
  | .tick =>
    if d.isRunning then
      { d with
        ticks := countAfter d.ticks
        stopped := d.reachesLimit
        waiting := d.waiting || d.reachesLimit }
    else d

/-- The state after an event, and whether the event sends the notification. -/
def step (d : Detector) (e : Event) : Detector × Bool :=
  (d.after e, e == .tick && d.firesNext)

/-- The state after a list of events. -/
def afterAll (d : Detector) (events : List Event) : Detector :=
  events.foldl after d

/-- Receive a notification: whether there was one. -/
def receive (d : Detector) : Detector × Bool :=
  ({ d with waiting := false }, d.waiting)

/-- A detector as a log shows it. -/
def shown (d : Detector) : String :=
  "HangDetector \x7b tick_limit: " ++ toString d.limit ++ ", ticks: " ++ toString d.ticks ++
    ", .. \x7d"

end Detector

end Stepwise
