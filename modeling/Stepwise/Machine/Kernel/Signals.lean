import Stepwise.Machine.Kernel.Basic

/-!
# Signals and ends of processes

A signal ends a process unless the process ignores or catches it. An ended process is kept until its
parent has been told.

* `Kernel.send`, `Kernel.sendGroup`: send a signal.
* `Kernel.finish`: end a process. `Kernel.collect`: learn of the end of a child.
-/

namespace Stepwise.Machine.Kernel

/-- End a process. Its descriptors are closed, and its children have no parent any more. -/
def finish (k : Kernel) (process : Nat) (ending : Ending) : Kernel :=
  let k := k.modify process fun p => { p with ending := some ending, descriptors := [] }
  let orphaned := k.processes.map fun p => if p.parent = process then { p with parent := 0 } else p
  { k with processes := orphaned }.sweep

/-- Send a signal to a process. -/
def send (k : Kernel) (signal : Signal) (target : Process) : Kernel :=
  if target.ending.isSome then k
  else if signal = Signal.resume then k.modify target.number fun p => { p with stopped := false }
  else match target.arranged.lookup signal with
    | some .ignored => k
    | some .caught => k.modify target.number fun p =>
      { p with caught := if p.caught.contains signal then p.caught else p.caught ++ [signal] }
    | none => match signal.effect with
      | .ends => k.finish target.number (.killed signal)
      | .stops => k.modify target.number fun p => { p with stopped := true }
      | .resumes | .nothing => k

/-- Send a signal to the process with a number; whether there is one. -/
def sendTo (k : Kernel) (signal : Signal) (number : Nat) : Kernel × Bool :=
  match k.process? number with
  | some p => (if signal = 0 then k else k.send signal p, true)
  | none => (k, false)

/-- Send a signal to all processes of a group; whether there are any. -/
def sendGroup (k : Kernel) (signal : Signal) (group : Nat) : Kernel × Bool :=
  let members := k.processes.filter (·.group = group)
  (if signal = 0 then k else members.foldl (fun k p => k.send signal p) k, !members.isEmpty)

/-- Arrange for a signal: ignore it, catch it, or let it have its effect. -/
def arrange (k : Kernel) (process : Nat) (signal : Signal) (arrangement : Option Arrangement) :
    Kernel :=
  if signal.isFixed then k
  else k.modify process fun p =>
    let others := p.arranged.filter (·.1 ≠ signal)
    { p with arranged := match arrangement with
        | some a => (signal, a) :: others
        | none => others }

/-- The arrangements that a new program inherits: ignored signals stay ignored. -/
def dropCaught (k : Kernel) (process : Nat) : Kernel :=
  k.modify process fun p =>
    { p with arranged := p.arranged.filter (·.2 = .ignored), caught := [] }

/-- Take the caught signals that a process has not looked at. -/
def takeCaught (k : Kernel) (process : Nat) : Kernel × List Signal :=
  match k.process? process with
  | some p => if p.caught.isEmpty then (k, []) else
    (k.modify process fun p => { p with caught := [] }, p.caught)
  | none => (k, [])

/-- Whether a process has caught signals that it has not looked at. -/
def hasCaught (k : Kernel) (process : Nat) : Bool :=
  match k.process? process with
  | some p => !p.caught.isEmpty
  | none => false

/-- Learn of the end of one of some children, if one has ended. It is forgotten. -/
def collect (k : Kernel) (parent : Nat) (children : List Nat) : Option (Kernel × Nat × Ending) :=
  k.processes.findSome? fun p =>
    if p.parent = parent && children.contains p.number then
      p.ending.map fun ending =>
        ({ k with processes := k.processes.filter (·.number ≠ p.number) }, p.number, ending)
    else none

end Stepwise.Machine.Kernel
