import Stepwise.Machine.Activity

/-!
# The scheduler

Every process has its own time: the moment at which it goes on. The scheduler lets that process go
on whose time comes first; one that is blocked, or stopped, is passed over. The clock never goes
back, so that a process that waited for something goes on when it happened.

* `Machine.step?`: the next thing that happens up to a time.
* `Machine.runUntil`: everything that happens up to a time, or until something is the case.

Not modelled here: several processors and the share of time that a process gets.
-/

namespace Stepwise

/-- A process that goes on at a time. -/
structure Machine.Thread where
  process : Nat
  time : Nat
  activity : Activity

/-- A kernel with what its processes do. -/
structure Machine where
  kernel : Machine.Kernel := {}
  threads : List Machine.Thread := []
  /-- The time in microseconds. -/
  clock : Nat := 0
  deriving Inhabited

namespace Machine

/-- Put a thread behind those that go on before it or at the same time. -/
def schedule (t : Thread) : List Thread → List Thread
  | [] => [t]
  | u :: us => if t.time < u.time then t :: u :: us else u :: schedule t us

/-- Add a process that goes on from now. -/
def add (m : Machine) (process : Nat) (activity : Activity) : Machine :=
  { m with threads := schedule { process, time := m.clock, activity } m.threads }

/-- The machine after a thread went on at the present time, with the threads beside it; nothing if
it is blocked. -/
def advance (m : Machine) (others : List Thread) (t : Thread) : Option Machine :=
  let resume (kernel : Kernel) (cost : Nat) (activity : Activity) : Machine :=
    { m with kernel, threads := schedule { t with time := m.clock + cost, activity } others }
  match t.activity with
  | .finish code =>
    some { m with kernel := m.kernel.finish t.process (.exited code), threads := others }
  | .request cost attempt => (attempt m.kernel).map fun (kernel, next) => resume kernel cost next
  | .sleep time next => some (resume m.kernel time (next ()))
  | .fork child next =>
    let (kernel, number) := m.kernel.fork t.process
    let m := resume kernel Task.forkCost (next number)
    let new := { process := number, time := m.clock + 2 * Task.forkCost, activity := child number }
    some { m with threads := schedule new m.threads }

/-- The machine after the first of some threads that can go on did so. -/
def firstStep? (m : Machine) (limit : Nat) (passed : List Thread) : List Thread → Option Machine
  | [] => none
  | t :: ts =>
    if limit < t.time then none
    else if m.kernel.isStopped t.process then firstStep? m limit (t :: passed) ts
    else match { m with clock := max m.clock t.time }.advance (passed.reverse ++ ts) t with
      | some m => some m
      | none => firstStep? m limit (t :: passed) ts

/-- The machine after the next thing that happens up to a time. -/
def step? (m : Machine) (limit : Nat) : Option Machine :=
  let alive := m.threads.filter fun t => m.kernel.isAlive t.process
  { m with threads := alive }.firstStep? limit [] alive

/-- The most that happens between two looks at a machine. -/
def stepLimit : Nat := 4000000

/-- Let things happen up to a time, or until something is the case. -/
def runUntil (limit : Nat) (done : Kernel → Bool) : Nat → Machine → Machine
  | 0, m => { m with clock := max m.clock limit }
  | fuel + 1, m =>
    if done m.kernel then m
    else match m.step? limit with
      | some m => runUntil limit done fuel m
      | none => { m with clock := max m.clock limit }

end Machine

end Stepwise
