import Stepwise.Machine.Shell.Reader
import Stepwise.Machine.Utility.Loading

/-!
# The state of a shell

What a shell knows beside what the kernel knows of its process: variables, parameters, functions,
traps, and how far it has come. A piece of work of a shell is a task with this state.

* `Shell.valueOf?`, `Shell.assign`: read and change variables.
* `Shell.environment`: the variables that programs are started with.
-/

namespace Stepwise.Machine

namespace Shell

/-- What is known of a variable. One without a value has only been declared. -/
structure Binding where
  value : Option Raw := none
  exported : Bool := false
  /-- Whether it cannot be changed any more. -/
  fixed : Bool := false

/-- A way to leave a list of commands early. -/
inductive Jump where
  | leaveLoops (count : Nat)
  | nextRound (count : Nat)
  | leaveFunction
  deriving DecidableEq

/-- A command that runs in the background: its processes, of which the last one stands for it. -/
structure Job where
  processes : List Nat
  number : Nat

end Shell

open Shell in
/-- The state of a shell. -/
structure Shell where
  /-- The name by which it complains. -/
  name : Raw
  parameters : List Raw := []
  vars : List (Raw × Binding) := []
  functions : List (Raw × Script) := []
  /-- The letters of the options that are set. -/
  options : List Char := []
  /-- The status of the last command. -/
  status : Nat := 0
  /-- The status of the last substituted command. -/
  substitutionStatus : Nat := 0
  /-- The number of the process in which the script was started. -/
  root : Nat
  parent : Nat
  background : Option Nat := none
  jobs : List Job := []
  /-- What is run on signals, and under 0 what is run at the end. -/
  traps : List (Signal × Raw) := []
  jump : Option Jump := none
  /-- How many loops are open. -/
  loops : Nat := 0
  /-- The variables that functions have made their own, as they were before. -/
  locals : List (List (Raw × Option Binding)) := []
  /-- The command of the shell in whose name it complains, if there is one. -/
  about : Raw := []
  /-- The signals that the shell cannot catch, because they were ignored when it started. -/
  ignored : List Signal := []
  /-- The statuses of background commands that have been waited for. -/
  settled : List (Nat × Nat) := []
  aliases : List (Raw × Raw) := []
  /-- The permissions that new files do not get. -/
  mask : Nat := 0o22
  line : Nat := 0
  /-- The place of `getopts` in its word. -/
  optionOffset : Nat := 0

namespace Shell

/-! ## Variables -/

/-- The value of a variable. -/
def valueOf? (s : Shell) (name : Raw) : Option Raw := (s.vars.lookup name).bind (·.value)

/-- The state after a change of one variable, which is new if there is none of its name. -/
def modifyVariable (s : Shell) (name : Raw) (change : Binding → Binding) : Shell :=
  if s.vars.any (·.1 = name) then
    { s with vars := s.vars.map fun v => if v.1 = name then (name, change v.2) else v }
  else { s with vars := s.vars ++ [(name, change {})] }

/-- Whether a variable cannot be changed. -/
def isFixed (s : Shell) (name : Raw) : Bool := ((s.vars.lookup name).map (·.fixed)).getD false

/-- Whether an option is set. -/
def hasOption (s : Shell) (letter : Char) : Bool := s.options.contains letter

/-- Give a variable a value. -/
def assign (s : Shell) (name value : Raw) : Shell :=
  s.modifyVariable name fun v =>
    { v with value := some value, exported := v.exported || s.hasOption 'a' }

/-- Hand a variable on to programs. -/
def exportVariable (s : Shell) (name : Raw) : Shell :=
  s.modifyVariable name fun v => { v with exported := true }

/-- Forget a variable. -/
def unset (s : Shell) (name : Raw) : Shell :=
  { s with vars := s.vars.filter (·.1 ≠ name) }

/-- Put a variable back as it was. -/
def restore (s : Shell) (name : Raw) : Option Binding → Shell
  | some v => s.modifyVariable name fun _ => v
  | none => s.unset name

/-- Where a variable stands among those that are handed on. Of two that stand at the same place, the
older one comes first. -/
def rank (name : Raw) : Nat :=
  (name.foldl (fun n c => n + c.toNat) (16 * (name.headD '\x00').toNat)) % 39

/-- The variables that programs are started with. -/
def environment (s : Shell) : List Raw :=
  let handedOn := s.vars.filterMap fun (name, v) =>
    if v.exported then v.value.map (name, ·) else none
  let ordered := handedOn.mergeSort fun a b => rank a.1 ≤ rank b.1
  ordered.map fun (name, value) => name ++ '=' :: value

/-- The variables that a shell has before it reads those that it is started with. -/
def ownVariables : List (Raw × Binding) :=
  [("IFS", " \t\n"), ("OPTIND", "1"), ("PATH",
      "/usr/local/sbin:/usr/local/bin:/usr/sbin:/usr/bin:/sbin:/bin"),
    ("PS1", "# "), ("PS2", "> "), ("PS4", "+ ")].map fun (name, value) =>
      (name.toList, { value := some value.toList })

/-- The variables of which a shell does not take the value from what it is started with. -/
def keptVariables : List Raw := ["IFS".toList, "OPTIND".toList]

/-- The state after reading a variable that the shell is started with. What is no name is
dropped. -/
def receive (s : Shell) (text : Raw) : Shell :=
  let name := text.takeWhile (· ≠ '=')
  if !Raw.isName name || name.length = text.length then s
  else
    let s := if keptVariables.contains name then s else s.assign name (text.drop (name.length + 1))
    s.exportVariable name

/-- The state of a shell at its start. -/
def start (name : Raw) (parameters environment : List Raw) (root parent : Nat) (directory : Raw) :
    Shell :=
  let s := environment.foldl receive { name, parameters, vars := ownVariables, root, parent }
  let s := s.assign "PPID".toList (Raw.ofNat parent)
  (s.assign "PWD".toList directory).exportVariable "PWD".toList

/-- The state in which a new process of a shell begins: traps are forgotten, but what is ignored
stays ignored. -/
def forChild (s : Shell) : Shell :=
  { s with
    traps := s.traps.filter fun (signal, action) => signal ≠ 0 && action.isEmpty, jobs := [] }

end Shell

/-- A piece of work of a shell. -/
abbrev Sh := StateT Shell Task

namespace Sh

/-- Write to the error stream, in the name of the shell. -/
def warn (message : Raw) : Sh Unit := do
  let s ← get
  let about := if s.about.isEmpty then [] else s.about ++ ": ".toList
  Task.complain
    (s.name ++ ": ".toList ++ Raw.ofNat s.line ++ ": ".toList ++ about ++ message ++ ['\n'])

/-- Write output; whether that worked. -/
def put (data : Raw) : Sh Bool := do
  if data.isEmpty then return true
  match ← Task.write 1 data with
  | .ok () => return true
  | .error _ => return false

/-- Set the status. -/
def setStatus (status : Nat) : Sh Unit := modify fun s => { s with status }

/-- Run a task of another process, with a copy of the state. -/
def fork (child : Sh Nat) : Sh Nat := do
  modify fun s => { s with settled := s.settled.dropLast }
  let s ← get
  Task.fork (child.run' s.forChild)

/-- Run a piece of work that can be given up, with a status, at any place in it. -/
def escapable (work : (Nat → Sh Empty) → Sh Nat) : Sh Nat := fun s process next =>
  work (fun status s _ _ => next (status, s)) s process next

end Sh

/-- What the parts of a shell need of each other. -/
structure Interpreter where
  /-- Run a command. The first flag says that nothing follows it, the second one that its status is
  looked at. -/
  run : Bool → Bool → Shell.Script → Sh Unit
  /-- Run the rounds of a loop. The flag says whether the status of its body is looked at; the
  number is the status of the last round. -/
  rounds : (tested isUntil : Bool) → (condition body : Shell.Script) → Nat → Sh Nat
  /-- End the shell with a status. -/
  quit : Nat → Sh Unit
  /-- Give up the current command with a status, because of an error. -/
  abandon : Nat → Sh Empty
  loader : Loader

namespace Interpreter

/-- Complain, and give up the current command. -/
def fail {α : Type} (i : Interpreter) (message : Raw) : Sh α := do
  Sh.warn message
  nomatch ← i.abandon 2

end Interpreter

end Stepwise.Machine
