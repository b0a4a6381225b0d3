import Stepwise.Commands.Envs
import Stepwise.Steps.Runner

/-!
# The command `exec`

The command (`ExecCommand`) runs one program as the only step of a workflow, with the secrets of an
inventory in scope. Its settings come from a file, then from the variables of the process, then from
its flags.

* `ExecRequest.settings` (`settings`): the settings that apply.
* `ExecRequest.step` (`step`): the only step.
* `ExecRequest.run` (`execute`): what the command does.
-/

namespace Stepwise.CommandLine

/-- What a run of a program leaves behind. -/
structure Execution (σ : Type) where
  host : σ
  output : Bytes := []
  /-- A line for each step that failed. -/
  complaints : List String := []
  log : List LogEntry := []
  /-- The exit code of the run, or why it ended early. -/
  result : Except Error Int

/-- The line about a step that failed. -/
def complaint? : Progress → Option String
  | .finished r => if r.status.isFailure then some (r.title ++ ": " ++ r.failureReason) else none
  | .starting .. => none

namespace ExecRequest

/-- The step of a request. -/
def step (r : ExecRequest) : Step where
  title := r.title
  program := r.program
  arguments := r.arguments
  plan := { uuid := "" }

/-- The settings of the file that a request may name. -/
def fileSettings (r : ExecRequest) (read : String → FileRead) : Except Error Settings :=
  match r.options.settings with
  | none => .ok {}
  | some path => Settings.load path (read path)

/-- The settings that apply to a request, given how variables that override settings are looked
up. -/
def settings (r : ExecRequest) (lookup : String → Option String) (read : String → FileRead) :
    Except Error Settings := do
  match (← r.fileSettings read).override lookup with
  | (_, some fault) => throw (.settings none fault)
  | (s, none) => return s.withFlags r.options.flags

/-- What a run needs beside its step: how it is run, and the scopes that the step is run in. -/
def prepare {σ : Type} (r : ExecRequest) (env : Environment) (lookup : String → Option String)
    (read : String → FileRead) : Except Error (Runner σ × Scopes) := do
  let settings ← r.settings lookup read
  let inventory ← inventoryOf r.options.inventory read
  let filters ← filtersSecrets settings.filtering inventory
  return ({ settings, source := fun _ => env, filters },
    .start settings.declarations inventory [] r.workflow r.workflow [])

/-- Run a program on a host, given the variables of the process. A value that is not text overrides
no setting, so a look-up of these can be given apart. -/
def run {σ : Type} (r : ExecRequest) (host : Host σ) (env : Environment) (state : σ)
    (lookup : String → Option String := env.value?) : Execution σ :=
  match r.prepare env lookup (host.read · state) with
  | .error e => { host := state, result := .error e }
  | .ok (runner, scopes) =>
    let (session, failure) := runner.run host r.workflow [r.step] scopes state
    { host := session.host
      output := session.output
      complaints := session.progress.filterMap complaint?
      log := session.log
      result := failure.elim (.ok session.results.exitCode) .error }

end ExecRequest

end Stepwise.CommandLine
