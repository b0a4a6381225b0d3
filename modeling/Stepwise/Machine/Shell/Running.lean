import Stepwise.Machine.Shell.Redirection

/-!
# Running text

Scripts, the arguments of `eval` and the actions of traps are texts that are run line by line.

* `Running.text`: run a text.
* `Running.traps`: run the actions for the signals that have been caught.
* `Running.quit`: end the shell.
-/

namespace Stepwise.Machine.Shell.Running

/-- Run the lines of a text from a place on. The flag says that nothing follows it. The number
bounds how many lines there are. -/
def lines (i : Interpreter) (last : Bool) : Nat → Reading → Sh Unit
  | 0, _ => return ()
  | fuel + 1, reading => do
    let (result, reading) := Reader.line.run { reading with aliases := (← get).aliases }
    match result with
    | .error fault =>
      modify fun s => { s with line := reading.line }
      i.fail ("Syntax error: ".toList ++ Raw.ofString fault.message)
    | .ok none => return ()
    | .ok (some script) =>
      let ends := reading.rest.all fun c => Raw.isSpace c
      i.run (last && ends) false script
      if (← get).jump.isNone then lines i last fuel reading

/-- Run a text. The status is that of its last command. -/
def text (i : Interpreter) (last : Bool) (script : Raw) : Sh Unit := do
  Sh.setStatus 0
  lines i last (script.length + 1) { rest := script }

/-- Run the action of a trap. The status is kept. -/
def action (i : Interpreter) (script : Raw) : Sh Unit := do
  let s ← get
  lines i false (script.length + 1) { rest := script }
  modify fun after => { after with status := s.status }

/-- Run the actions for the signals that have been caught. -/
def traps (i : Interpreter) : Sh Unit := do
  let caught ← Task.system fun process k => k.takeCaught process
  caught.forM fun signal => do
    match (← get).traps.lookup signal with
    | some script => action i script
    | none => return ()

/-- End the shell with a status, after the action for its end. -/
def quit (i : Interpreter) (status : Nat) : Sh Unit := do
  let s ← get
  match s.traps.lookup 0 with
  | some script =>
    set { s with traps := s.traps.filter (·.1 ≠ 0), jump := none, status }
    action i script
  | none => pure ()
  Task.exit status

end Stepwise.Machine.Shell.Running
