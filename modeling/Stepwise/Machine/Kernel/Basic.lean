import Stepwise.Machine.FileTree
import Stepwise.Machine.Signal
import Stepwise.Output.Sink

/-!
# The kernel of a machine

What the processes of a machine share: files, open files, pipes, each other. A descriptor of a
process leads to an open file, which several descriptors, also of several processes, can share; so
two of them go on where the other left off.

* `Kernel.openAt`: what a descriptor of a process leads to.
* `Kernel.setDescriptor`, `Kernel.close`: change it. What nobody holds any more is given up.
* `Kernel.fork`: a copy of a process.
-/

namespace Stepwise.Machine

/-- What an open file leads to. -/
inductive Target where
  | file (number : Nat)
  | directory
  | device (device : Device)
  /-- An end of a pipe. -/
  | pipe (number : Nat)
  /-- One of the two streams that are watched from outside. -/
  | stream (stream : Stream)
  deriving DecidableEq

/-- An open file. -/
structure OpenFile where
  target : Target
  readable : Bool
  writable : Bool
  /-- Whether everything is written to the end. -/
  appends : Bool := false
  /-- The place in the file at which the next access begins. -/
  offset : Nat := 0
  deriving DecidableEq

/-- What a process has arranged for a signal. -/
inductive Arrangement where
  | ignored
  | caught
  deriving DecidableEq

/-- How a process ended. -/
inductive Ending where
  | exited (code : Nat)
  | killed (signal : Signal)
  deriving DecidableEq

/-- The status by which a shell knows an ending. -/
def Ending.status : Ending → Nat
  | .exited code => code
  | .killed signal => 128 + signal

/-- What the kernel knows of a process. -/
structure Process where
  number : Nat
  parent : Nat
  group : Nat
  directory : Path := []
  /-- For each descriptor, the number of its open file. -/
  descriptors : List (Nat × Nat) := []
  arranged : List (Signal × Arrangement) := []
  /-- Caught signals that the process has not looked at. -/
  caught : List Signal := []
  stopped : Bool := false
  ending : Option Ending := none

/-- The kernel of a machine. -/
structure Kernel where
  tree : FileTree := {}
  openFiles : List (Nat × OpenFile) := []
  /-- What is in each pipe. -/
  pipes : List (Nat × Raw) := []
  processes : List Process := []
  nextProcess : Nat := 4000
  nextNumber : Nat := 0
  /-- What was written to the streams, the last first. -/
  written : List Chunk := []
  deriving Inhabited

namespace Kernel

/-! ## Processes -/

/-- The process with a number. -/
def process? (k : Kernel) (number : Nat) : Option Process :=
  k.processes.find? (·.number = number)

/-- The kernel after a change of one process. -/
def modify (k : Kernel) (number : Nat) (change : Process → Process) : Kernel :=
  { k with processes := k.processes.map fun p => if p.number = number then change p else p }

/-- The working directory of a process. -/
def directoryOf (k : Kernel) (number : Nat) : Path :=
  ((k.process? number).map (·.directory)).getD []

/-- Whether a process has not ended. -/
def isAlive (k : Kernel) (number : Nat) : Bool :=
  match k.process? number with
  | some p => p.ending.isNone
  | none => false

/-- Whether a process is stopped. -/
def isStopped (k : Kernel) (number : Nat) : Bool :=
  match k.process? number with
  | some p => p.stopped
  | none => false

/-! ## Descriptors -/

/-- The number of the open file that a descriptor leads to. -/
def numberAt? (k : Kernel) (process descriptor : Nat) : Option Nat := do
  (← k.process? process).descriptors.lookup descriptor

/-- What a descriptor of a process leads to. -/
def openAt (k : Kernel) (process descriptor : Nat) : Except SystemFault (Nat × OpenFile) :=
  match k.numberAt? process descriptor with
  | none => .error .badDescriptor
  | some number => match k.openFiles.lookup number with
    | some file => .ok (number, file)
    | none => .error .badDescriptor

/-- The kernel after a change of an open file. -/
def modifyOpen (k : Kernel) (number : Nat) (change : OpenFile → OpenFile) : Kernel :=
  { k with openFiles := k.openFiles.map fun f => if f.1 = number then (f.1, change f.2) else f }

/-- Whether some process holds an open file. -/
def isHeld (k : Kernel) (number : Nat) : Bool :=
  k.processes.any fun p => p.descriptors.any (·.2 = number)

/-- Whether some open file is an end of a pipe at which it is written to, or read from. -/
def hasEnd (k : Kernel) (pipe : Nat) (writable : Bool) : Bool :=
  k.openFiles.any fun (_, file) => file.target = .pipe pipe && file.writable = writable

/-- Whether some process can still write to a stream. -/
def hasStreams (k : Kernel) : Bool :=
  k.openFiles.any fun (_, file) => match file.target with
    | .stream _ => true
    | _ => false

/-- Give up what nobody holds. -/
def sweep (k : Kernel) : Kernel :=
  let kept := k.openFiles.filter fun (number, _) => k.isHeld number
  { k with
    openFiles := kept
    pipes := k.pipes.filter fun (number, _) => kept.any fun (_, file) =>
      file.target = .pipe number }

/-- Make a descriptor of a process lead to an open file. -/
def setDescriptor (k : Kernel) (process descriptor number : Nat) : Kernel :=
  (k.modify process fun p => { p with
    descriptors := (descriptor, number) :: p.descriptors.filter (·.1 ≠ descriptor) }).sweep

/-- Close a descriptor. -/
def close (k : Kernel) (process descriptor : Nat) : Kernel :=
  (k.modify process fun p =>
    { p with descriptors := p.descriptors.filter (·.1 ≠ descriptor) }).sweep

/-- The descriptors from here on are the system's own; scripts cannot name them. -/
def firstOwnDescriptor : Nat := 10

/-- Close the descriptors that are not handed on to a new program. -/
def closeOwn (k : Kernel) (process : Nat) : Kernel :=
  (k.modify process fun p =>
    { p with descriptors := p.descriptors.filter (·.1 < firstOwnDescriptor) }).sweep

/-- The first number from `least` on that is no descriptor of a process. -/
def freeDescriptor (k : Kernel) (process least : Nat) : Nat :=
  match k.process? process with
  | none => least
  | some p =>
    let numbers := List.range' least (p.descriptors.length + 1)
    (numbers.find? fun n => !p.descriptors.any (·.1 = n)).getD least

/-- Make one descriptor lead to where another one leads. -/
def duplicate (k : Kernel) (process source target : Nat) : Except SystemFault Kernel :=
  match k.numberAt? process source with
  | none => .error .badDescriptor
  | some number => .ok (if source = target then k else k.setDescriptor process target number)

/-- Add an open file. Its number comes with it. -/
def addOpen (k : Kernel) (file : OpenFile) : Kernel × Nat :=
  ({ k with openFiles := (k.nextNumber, file) :: k.openFiles, nextNumber := k.nextNumber + 1 },
    k.nextNumber)

/-- Open a file at a descriptor. -/
def install (k : Kernel) (process descriptor : Nat) (file : OpenFile) : Kernel :=
  let (k, number) := k.addOpen file
  k.setDescriptor process descriptor number

/-- Make a pipe. Its two ends are descriptors of the system's own, the one to read from first. -/
def pipe (k : Kernel) (process : Nat) : Kernel × Nat × Nat :=
  let number := k.nextNumber
  let k := { k with pipes := (number, []) :: k.pipes, nextNumber := number + 1 }
  let source := k.freeDescriptor process firstOwnDescriptor
  let k := k.install process source { target := .pipe number, readable := true, writable := false }
  let sink := k.freeDescriptor process firstOwnDescriptor
  (k.install process sink { target := .pipe number, readable := false, writable := true },
    source, sink)

/-- A copy of a process, which ignores the same signals and catches none. -/
def fork (k : Kernel) (parent : Nat) : Kernel × Nat :=
  let number := k.nextProcess
  match k.process? parent with
  | none => (k, number)
  | some p =>
    let child := { p with
      number, parent, arranged := p.arranged.filter (·.2 = .ignored), caught := [] }
    ({ k with processes := k.processes ++ [child], nextProcess := number + 1 }, number)

end Kernel

end Stepwise.Machine
