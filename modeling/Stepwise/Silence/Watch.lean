import Stepwise.Silence.Detector
import Stepwise.Text.Utf8

/-!
# Watched writers

A detector watches any number of writers (`ActivityWriter`), which are numbered in the order in
which they are made. Bytes written through one of them go on to its own destination. Flushing a
writer is not a write. Once the detector is given up, no tick is accepted any more.
-/

namespace Stepwise

/-- A detector with its watched writers. -/
structure Watch where
  detector : Detector
  /-- What each writer has passed on. -/
  written : List Bytes := []

namespace Watch

/-- A use of a detector or of one of its writers. -/
inductive Use where
  | start
  | stop
  | tick
  | receive
  | newWriter
  | write (writer : Nat) (bytes : Bytes)
  | flush (writer : Nat)
  | display
  | giveUp

/-- What a use answers. -/
inductive Answer where
  | nothing
  | yes (b : Bool)
  | number (n : Nat)
  | text (s : String)
  deriving DecidableEq

/-- The state after a use, and its answer. -/
def use (w : Watch) : Use → Watch × Answer
  | .start => ({ w with detector := w.detector.after .start }, .nothing)
  | .stop | .giveUp => ({ w with detector := w.detector.after .stop }, .nothing)
  | .tick => ({ w with detector := w.detector.after .tick }, .yes w.detector.isRunning)
  | .receive =>
    let (d, found) := w.detector.receive
    ({ w with detector := d }, .yes found)
  | .newWriter => ({ w with written := w.written ++ [[]] }, .number (w.written.length + 1))
  | .write n bytes =>
    ({ detector := w.detector.after .write, written := w.written.modify n (· ++ bytes) },
      .number bytes.length)
  | .flush _ => (w, .yes true)
  | .display => (w, .text w.detector.shown)

end Watch

/-! ## Tickers -/

/-- A source of ticks at a fixed interval. -/
structure IntervalTicker where
  interval : Duration
  stopped : Bool := false

namespace IntervalTicker

/-- Wait for the next tick; no tick comes from a stopped ticker. -/
def wait (t : IntervalTicker) : Bool := !t.stopped

/-- No more ticks. -/
def stop (t : IntervalTicker) : IntervalTicker := { t with stopped := true }

end IntervalTicker

end Stepwise
