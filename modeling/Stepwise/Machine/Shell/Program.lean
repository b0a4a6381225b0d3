import Stepwise.Machine.Shell.Evaluation

/-!
# The shell as a program

The shell runs the script in an argument, in a file, or from its standard input.
-/

namespace Stepwise.Machine.Shell

/-- How often loops of a script go round and how deep its commands are nested, together. -/
def workLimit : Nat := 10000000

/-- What the arguments of a shell ask for. -/
structure Request where
  /-- Words that set options. -/
  settings : List Raw := []
  isCommand : Bool := false
  readsInput : Bool := false
  operands : List Raw := []

/-- The request in arguments. -/
def Request.ofArguments : List Raw → Request
  | ['-', '-'] :: words => { operands := words }
  | ['-', 'o'] :: name :: words =>
    let r := ofArguments words
    { r with settings := ['-', 'o'] :: name :: r.settings }
  | ('-' :: c :: letters) :: words =>
    let r := ofArguments words
    let plain := (c :: letters).filter fun c => c ≠ 'c' && c ≠ 's'
    { r with
      settings := if plain.isEmpty then r.settings else ('-' :: plain) :: r.settings
      isCommand := r.isCommand || (c :: letters).contains 'c'
      readsInput := r.readsInput || (c :: letters).contains 's' }
  | ('+' :: c :: letters) :: words =>
    let r := ofArguments words
    { r with settings := ('+' :: c :: letters) :: r.settings }
  | words => { operands := words }

/-- Run a text and end. -/
def runText (i : Interpreter) (r : Request) (last : Bool) (script : Raw) : Sh Nat := do
  let _ ← Builtin.setOptions i r.settings
  modify fun s => { s with line := 1 }
  Running.text i last script
  Evaluation.finish i

/-- The shell. -/
def program (loader : Loader) : Program := fun start => do
  let i := interpreter loader workLimit
  let r := Request.ofArguments start.arguments
  let root ← Task.self
  let ignored ← Task.observe fun process k =>
    (((k.process? process).map (·.arranged)).getD []).filterMap fun (signal, arrangement) =>
      if arrangement = .ignored then some signal else none
  let parent ← Task.observe fun process k => ((k.process? process).map (·.parent)).getD 0
  let directory ← Utility.currentDirectory
  let run (name : Raw) (parameters : List Raw) (last : Bool) (script : Raw) : Task Nat :=
    (runText i r last script).run'
      { Shell.start name parameters start.environment root parent directory with ignored }
  let complain (message : Raw) : Task Unit :=
    Task.complain (start.name ++ ": 0: ".toList ++ message ++ ['\n'])
  match r.isCommand, r.readsInput, r.operands with
  | true, _, [] =>
    complain "-c requires an argument".toList
    return 2
  | true, _, script :: operands =>
    run (operands.headD start.name) (operands.drop 1) true script
  | false, false, path :: parameters =>
    match ← Utility.readInput path with
    | .ok script => run path parameters false script
    | .error _ =>
      complain ("cannot open ".toList ++ path ++ ": No such file".toList)
      return 2
  | false, _, parameters =>
    match ← Utility.readUntil 0 fun _ => false with
    | .ok script => run start.name parameters false script
    | .error _ => return 0

end Stepwise.Machine.Shell
