import Stepwise.Machine.Scheduler
import Stepwise.Steps.Invocation

/-!
# Supervising a process

A started process is looked at every now and then (`wait_for_event`). It is told to end
(`terminate`) once it has run for too long, or once its detector notices silence; if it does not, it
is killed, with everything in its group. Its behaviour is complete when nobody can write to its
streams any more.

* `Machine.supervise`: the behaviour of a process, and the machine after it.
-/

namespace Stepwise.Machine

/-- The time between two looks at a process. -/
def lookInterval : Nat := 20000

/-- How often a process is looked at in the end. -/
def lookLimit : Nat := 1000000

/-- A length of time in microseconds. -/
def micros (d : Duration) : Nat := d.nanos / 1000

/-- Let things happen up to a time. -/
def runTo (m : Machine) (time : Nat) : Machine := runUntil time (fun _ => false) stepLimit m

/-- A detector that is fed with ticks while a process runs. -/
structure Watching where
  detector : Detector
  interval : Nat
  nextTick : Nat
  /-- How much had been written at the last tick. -/
  seen : Nat := 0

/-- The state of a detector after the next tick. Anything that was written since the last one
counts. -/
def Watching.tick (w : Watching) (m : Machine) : Watching :=
  let written := m.kernel.written.length
  let detector := if w.seen = written then w.detector else w.detector.after .write
  { w with detector := detector.after .tick, seen := written, nextTick := w.nextTick + w.interval }

/-- Let things happen up to a time, with all ticks on the way; the flag tells whether silence was
noticed, which ends the wait. -/
def watch (limit : Nat) : Nat → Watching → Machine → Machine × Watching × Bool
  | 0, w, m => (m, w, false)
  | fuel + 1, w, m =>
    if limit < w.nextTick then (m.runTo limit, w, false)
    else
      let m := m.runTo w.nextTick
      let w := w.tick m
      if w.detector.waiting then (m, w, true) else watch limit fuel w m

/-- Wait for the end of a process, or for a reason to end it. -/
def waitFor (process : Nat) (deadline : Option Nat) :
    Nat → Option Watching → Machine → Machine × Option Abort
  | 0, _, m => (m, none)
  | fuel + 1, w, m =>
    if !m.kernel.isAlive process then (m, none)
    else if deadline.any (· ≤ m.clock) then (m, some .timedOut)
    else
      let limit := m.clock + lookInterval
      match w with
      | none => waitFor process deadline fuel none (m.runTo limit)
      | some w =>
        let (m, w, silent) := watch limit (lookInterval + 1) w m
        if silent then (m, some .silent) else waitFor process deadline fuel (some w) m

/-- Send a signal to a group. -/
def signalGroup (m : Machine) (signal : Signal) (group : Nat) : Machine :=
  { m with kernel := (m.kernel.sendGroup signal group).1 }

/-- Wait until a process has ended or its time is over, then kill its group. -/
def waitThenKill (process deadline : Nat) : Nat → Machine → Machine
  | 0, m => m.signalGroup Signal.kill process
  | fuel + 1, m =>
    if deadline ≤ m.clock || !m.kernel.isAlive process then m.signalGroup Signal.kill process
    else waitThenKill process deadline fuel (m.runTo (m.clock + lookInterval))

/-- Tell a process to end, and see that it does. -/
def terminate (m : Machine) (process grace : Nat) : Machine :=
  let m := m.signalGroup Signal.terminate process
  waitThenKill process (m.clock + grace) (lookLimit + 1) m

/-- The longest time for which the output of a process is waited for after its end. -/
def drainLimit : Nat := Nat.pow 10 12

/-- The behaviour of a process that has been started, and the machine after it. -/
def supervise (m : Machine) (i : Invocation) (process : Nat) : Behaviour × Machine :=
  let watching := i.silence.map fun s =>
    let interval := max 1 (micros s.interval)
    { detector := s.detector.after .start, interval, nextTick := m.clock + interval : Watching }
  let deadline := i.timeout.map fun t => m.clock + micros t
  let (m, abort) := waitFor process deadline lookLimit watching m
  let m := if abort.isSome then m.terminate process (micros i.grace) else m
  let m := runUntil (m.clock + drainLimit) (fun k => !k.hasStreams) stepLimit m
  let ending := (m.kernel.process? process).bind (·.ending)
  let behaviour : Behaviour := {
    chunks := m.kernel.written.reverse
    abort
    exitCode := match ending with
      | some (.exited code) => some (code : Int)
      | _ => none }
  let kept := m.kernel.processes.filter (·.ending.isNone)
  (behaviour, { m with kernel := { m.kernel with written := [], processes := kept } })

end Stepwise.Machine
