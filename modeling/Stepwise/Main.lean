import Stepwise.Commands.Exec
import Stepwise.Commands.Variables
import Stepwise.Machine.Host

/-!
# The program

Reads the variables, the command line and the files that it names, and prints what the commands give
(`main`, `CommandDispatcher`). Steps run on a machine that holds these files and nothing else of the
system.
-/

namespace Stepwise.CommandLine

/-- Where the system keeps the variables of a process. -/
def variablesPath : String := "/proc/self/environ"

/-- The words that `--help` prints. -/
def helpLines : List String :=
  ["Usage: runway [--debug] <COMMAND>",
   "",
   "  exec [OPTIONS] <PROGRAM> [ARGUMENT]...  Run a program as a single workflow step",
   "       --inventory <FILE>           Secret inventory file",
   "       --settings <FILE>            Runner settings file",
   "       --hang-timeout <SECS>        Abort after this many seconds without output",
   "       --timeout <SECS>             Abort after this many seconds",
   "       --secret-filtering <BOOL>    Redact secrets from output",
   "       --workflow <ID>              Workflow id exposed to the step",
   "       --title <TITLE>              Step title",
   "  envs [OPTIONS] --decl <FILE>            Show what environment declarations do",
   "       --inventory <FILE>           Secret inventory file"]

/-- The fault of a file that the system does not let be read. -/
def faultOf : IO.Error → SystemFault
  | .noFileOrDirectory .. => .notFound
  | .inappropriateType _ code _ => if code = 20 then .notDirectory else .isDirectory
  | _ => .denied

/-- A path and what reading it gives. -/
def fileAt (path : String) : IO (String × FileRead) := do
  match ← (IO.FS.readBinFile path).toBaseIO with
  | .ok content => return (path, .ok content.toList)
  | .error e => return (path, .error (faultOf e))

/-- Reading among files that were read before. -/
def readAmong (files : List (String × FileRead)) (path : String) : FileRead :=
  (files.lookup path).getD (.error .notFound)

/-- A machine with the files that were read. -/
def machineWith (directory : Machine.Path) (files : List (String × FileRead)) : Machine :=
  .new directory (files.filterMap fun (path, file) => match file with
    | .ok content => some (Utf8.encode path, some content)
    | .error .isDirectory => some (Utf8.encode path, none)
    | .error _ => none)

/-- Print bytes. -/
def put (stream : IO.FS.Stream) (content : Bytes) : IO Unit := do
  stream.write (ByteArray.mk content.toArray)
  stream.flush

/-- Print lines. -/
def putLines (stream : IO.FS.Stream) (lines : List String) : IO Unit :=
  put stream (printed lines)

/-- Print what ended a command. -/
def finish (result : Except Error Int) : IO UInt32 := do
  match result with
  | .ok code => return if 0 ≤ code ∧ code < 256 then code.toNat.toUInt32 else 1
  | .error e =>
    putLines (← IO.getStderr) ["Error: " ++ e.message]
    return 1

/-- Show what declarations do. -/
def showDeclarations (env : Environment) (r : EnvsRequest) : IO UInt32 := do
  let files ← (r.inventory.toList ++ [r.declarations]).mapM fileAt
  let lines := r.lines env (readAmong files)
  putLines (← IO.getStdout) (lines.toOption.getD [])
  finish (lines.map fun _ => 0)

/-- Run a program. -/
def runProgram (vars : List (Bytes × Bytes)) (r : ExecRequest) : IO UInt32 := do
  let env := Environment.ofProcess vars
  let lookup := Environment.textOfProcess? vars
  let named ← (r.options.settings.toList ++ r.options.inventory.toList).mapM fileAt
  let settings := (r.settings lookup (readAmong named)).toOption
  let cleared ← (settings.bind (·.clearedPath)).toList.mapM fileAt
  let directory := (Machine.FileTree.splitAt Machine.FileTree.slash
    (Utf8.encode (← IO.currentDir).toString)).filter (· ≠ [])
  let execution := r.run (Machine.host ⟨directory, env.toPairs⟩) env
    (machineWith directory (named ++ cleared)) lookup
  put (← IO.getStdout) execution.output
  putLines (← IO.getStderr)
    (execution.log.map (fun entry => entry.level.name ++ " " ++ entry.text) ++ execution.complaints)
  finish execution.result

/-- Say why there is no request. -/
def halt (h : Halt) : IO UInt32 := do
  match h.reason with
  | .version => put (← IO.getStdout) (Utf8.encode (versionLine h.command))
  | .help => putLines (← IO.getStdout) helpLines
  | .usage fault => putLines (← IO.getStderr) (("error: " ++ fault.message) :: "" :: helpLines)
  return h.exitCode.toUInt32

end Stepwise.CommandLine

open Stepwise Stepwise.CommandLine in
/-- Answer a command line. -/
def main (words : List String) : IO UInt32 := do
  let (_, block) ← fileAt variablesPath
  let vars := Environment.variablesOfBlock (block.toOption.getD [])
  let env := Environment.ofProcess vars
  match Request.ofWords env.value? words with
  | .error h => halt h
  | .ok (.envs r) => showDeclarations env r
  | .ok (.exec r) => runProgram vars r
