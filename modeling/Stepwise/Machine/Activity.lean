import Stepwise.Machine.Kernel.Files
import Stepwise.Machine.Kernel.Signals

/-!
# What processes do

A process is an `Activity`: a tree of requests to the kernel, in which what comes next depends on
the answers. A request that cannot be answered yet blocks the process.

A `Task` is a piece of an activity that hands a value over to the rest. Tasks are put together as a
monad, so that a program reads like a list of instructions.

* `Task.system`: a request that is answered at once. `Task.await`: one that may have to wait.
* `Task.fork`: a new process with a task of its own.
* `Task.activity`: the activity of a process that runs a task.
-/

namespace Stepwise.Machine

/-- What a process does. Times are in microseconds. -/
inductive Activity where
  | finish (code : Nat)
  /-- A request that takes some time once it is answered; `none` means that it has to wait. -/
  | request (cost : Nat) (attempt : Kernel → Option (Kernel × Activity))
  | sleep (time : Nat) (next : Unit → Activity)
  /-- Start a new process. Both go on with its number. -/
  | fork (child next : Nat → Activity)

instance : Inhabited Activity := ⟨.finish 0⟩

/-- A piece of the activity of the process with the given number. -/
def Task (α : Type) : Type := Nat → (α → Activity) → Activity

namespace Task

variable {α : Type}

instance : Monad Task where
  pure a := fun _ next => next a
  bind task f := fun process next => task process fun a => f a process next

instance : Inhabited (Task α) := ⟨fun _ _ => .finish 0⟩

/-- The activity of a process that runs a task and ends with its value as exit code. -/
def activity (task : Task Nat) (process : Nat) : Activity := task process .finish

/-- The time that a simple request takes. -/
def requestCost : Nat := 2

/-- The time that it takes to start a process. -/
def forkCost : Nat := 150

/-- The time that it takes to start a program. -/
def programCost : Nat := 400

/-- The number of the own process. -/
def self : Task Nat := fun process next => next process

/-- End the process. -/
def exit (code : Nat) : Task α := fun _ _ => .finish (code % 256)

/-- Go on with another task, and nothing after it. -/
def become (task : Task Nat) : Task α := fun process _ => task.activity process

/-- Wait for an answer of the kernel. -/
def await (attempt : Nat → Kernel → Option (Kernel × α)) : Task α := fun process next =>
  .request requestCost fun k => (attempt process k).map fun (k, a) => (k, next a)

/-- A request that is answered at once. -/
def system (f : Nat → Kernel → Kernel × α) : Task α := await fun process k => some (f process k)

/-- Look at the kernel. -/
def observe (f : Nat → Kernel → α) : Task α := system fun process k => (k, f process k)

/-- Change the kernel. -/
def change (f : Nat → Kernel → Kernel) : Task Unit := system fun process k => (f process k, ())

/-- Change the kernel if that is possible. -/
def attempt (f : Nat → Kernel → Except SystemFault (Kernel × α)) : Task (Except SystemFault α) :=
  system fun process k => match f process k with
    | .ok (k, a) => (k, .ok a)
    | .error e => (k, .error e)

/-- Let time pass while nothing can happen to the process but its end. -/
def sleep (time : Nat) : Task Unit := fun _ next => .sleep time next

/-- Spend time. -/
def spend (time : Nat) : Task Unit := fun _ next => .request time fun k => some (k, next ())

/-- Start a process that runs a task. -/
def fork (child : Task Nat) : Task Nat := fun _ next => .fork child.activity next

/-! ## Files -/

/-- Read up to `limit` bytes. -/
def read (descriptor limit : Nat) : Task (Except SystemFault Raw) :=
  await fun process k => k.read process descriptor limit

/-- How much is read at a time. -/
def blockSize : Nat := 65536

/-- Write bytes. A process that writes to a pipe that nobody reads is sent a signal. -/
def write (descriptor : Nat) (data : Raw) : Task (Except SystemFault Unit) := do
  let result ← await fun process k => k.write process descriptor data
  if let .error .brokenPipe := result then
    change fun process k => (k.sendTo Signal.pipe process).1
  return result

/-- Write bytes for people, whether that works or not. -/
def complain (message : Raw) : Task Unit := do
  let _ ← write 2 message

/-- The working directory. -/
def directory : Task Path := observe fun process k => k.directoryOf process

/-- Look at the files from the working directory. -/
def files (f : FileTree → Path → α) : Task α :=
  observe fun process k => f k.tree (k.directoryOf process)

/-- Change the files if that is possible. -/
def changeFiles (f : FileTree → Path → Except SystemFault FileTree) :
    Task (Except SystemFault Unit) :=
  attempt fun process k => (f k.tree (k.directoryOf process)).map fun tree => ({ k with tree }, ())

end Task

end Stepwise.Machine
