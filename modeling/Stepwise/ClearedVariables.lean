import Stepwise.Environment
import Stepwise.Log
import Stepwise.Yaml.File

/-!
# Cleared variables

Variables that are too large for a process's environment may have been cleared before the runner is
started. Their values are then kept in a file (`EnvFile`), together with the names of those that
were removed altogether.

* `ClearedVariables.valueFor` (`value_for`): the true value of one variable.
* `ClearedVariables.restore` (`restore`): an environment in which every empty variable has its true
  value.
* `ClearedVariables.entries` (`log_large_env_warning`): what the log says of the removed ones.
-/

namespace Stepwise

/-- The values of cleared variables. -/
structure ClearedVariables where
  /-- Name and value, in the order of the file; the last one of a name counts. -/
  values : List (String × String) := []
  /-- The variables that are missing from the environment. -/
  removed : List String := []
  deriving DecidableEq, Inhabited

namespace ClearedVariables

open Yaml

/-- The variable that holds the path of the file. -/
def pathKey : String := "RUNWAY_ENVFILE_PATH"

/-- The kept value of a variable. -/
def get? (cleared : ClearedVariables) (key : String) : Option String :=
  cleared.values.reverse.lookup key

/-- The true value of a variable: an empty one has its kept value, and a missing one is empty. -/
def valueFor (cleared : ClearedVariables) (key : String) (runtime : Environment) : String :=
  match runtime.value? key with
  | none => ""
  | some value => if value = "" then (cleared.get? key).getD "" else value

/-- A variable with its true value. -/
def restoreVariable (cleared : ClearedVariables) (v : Variable) : Variable :=
  if v.value = "" then { v with value := (cleared.get? v.key).getD "" } else v

/-- An environment with the true values of its variables. -/
def restore (cleared : ClearedVariables) (runtime : Environment) : Environment :=
  runtime.vars.foldl (fun env v => env.insert (cleared.restoreVariable v)) runtime

/-! ## The file -/

/-- The cleared variables of a document. -/
def reader : Reader ClearedVariables :=
  Reader.record ["envs", "cleared_env_keys"] fun depth field => do
    return {
      values := ← Reader.field Reader.pairs [] depth (field "envs")
      removed := ← Reader.field (Reader.list Reader.text) [] depth (field "cleared_env_keys") }

/-- The cleared variables of the file at a path. -/
def load (path : String) (file : FileRead) : Except Error ClearedVariables :=
  (reader.runFile {} file).mapError (.envFile path)

/-- What a reader should know of variables that were removed. -/
def notice (removed : List String) : String :=
  "Some env vars were removed because their size would exceed system limits.\n" ++
    "Their original values are available in the file at $" ++ pathKey ++ ".\n" ++
    "The following env vars are not available in the runtime environment:\n" ++
    String.join (removed.map fun key => "- " ++ key ++ "\n")

/-- What a run logs about the file at a path before its first step. A missing file says nothing. -/
def entries (path : String) (file : FileRead) : List LogEntry :=
  if file.isAbsent then []
  else match load path file with
    | .error e => [.clearedUnreadable e]
    | .ok cleared =>
      if cleared.removed.isEmpty then [] else [.clearedNotice (notice cleared.removed)]

end ClearedVariables

end Stepwise
