import Stepwise.Exports
import Stepwise.Scopes.Basic
import Stepwise.Settings
import Stepwise.Steps.Invocation

/-!
# Running the steps of a workflow

The runner (`StepRunner`) runs steps one after another, and every step runs, whatever failed before.
For each step

1. a file is made to which the step may export variables,
2. the declarations that the step sees, its own ones and that of the file are resolved,
3. its process runs, with its secrets hidden in the output,
4. its result is filed, and what it exported becomes visible.

A step whose declarations do not resolve, or whose process cannot be started, is a failed step. A
run ends early only if the secrets do not resolve, if no file can be made, or if the process of a
step is lost after its start.

* `Runner.runStep` (`run_step`): one step. `Runner.run` (`run_with_progress`): all steps.
* `Runner.restoredSource` (`source_environment`): what the declarations of a step are resolved on.
* `Runner.declarationsOf`, `Runner.secretsOf`: what a step sees, and what is hidden of it.
* `Runner.exportsOf` (`read_outputs`): what a step exported.
-/

namespace Stepwise

/-- A step: a program, declarations of its own, and the scope in which it runs. -/
structure Step where
  title : String
  program : String
  arguments : List String := []
  declarations : List Declaration := []
  plan : Plan
  directory : Option String := none

/-- Something that a run reports while it goes on. -/
inductive Progress where
  | starting (title : String) (index total : Nat)
  | finished (result : StepResult)
  deriving DecidableEq

/-- A run as far as it has come. -/
structure Session (σ : Type) where
  host : σ
  scopes : Scopes
  results : Results
  output : Bytes := []
  progress : List Progress := []
  log : List LogEntry := []

/-- What is the same for all steps of a run. -/
structure Runner (σ : Type) where
  settings : Settings
  /-- The variables that declarations are resolved on top of, as the host has them. -/
  source : σ → Environment
  filters : Bool
  deriving Inhabited

namespace Runner

variable {σ : Type}

/-- The exit code of a step whose process did not run. -/
def notRunCode : Int := 1

/-- The source with the true values of cleared variables, and what is logged about their file. -/
def restoredSource (r : Runner σ) (host : Host σ) (state : σ) : Environment × List LogEntry :=
  let source := r.source state
  match r.settings.clearedPath with
  | none => (source, [])
  | some path =>
    let file := host.read path state
    if file.isAbsent then (source, [])
    else match ClearedVariables.load path file with
      | .ok cleared => (cleared.restore source, [])
      | .error e => (source, [.clearedIgnored e])

/-- The declarations that a step is run with. -/
def declarationsOf (scopes : Scopes) (step : Step) (exportPath : String) : List Declaration :=
  scopes.visible ++ step.declarations ++ [.literal Exports.fileKey exportPath]

/-- The secrets that are hidden in a step's output: those of the run, and the sensitive variables of
the step's environment. -/
def secretsOf (r : Runner σ) (secrets : SecretSet) (env : Environment) : Option SecretSet :=
  if r.filters then some (secrets.merge (.ofEnvironment env)) else none

/-- How the silence of steps is watched. -/
def silenceWatch (s : Settings) : Option SilenceWatch :=
  s.noOutputTimeout.map fun timeout =>
    { detector := .withTimeout timeout s.tickInterval, interval := s.tickInterval }

/-- The program that a step starts in an environment. -/
def invocation (r : Runner σ) (secrets : SecretSet) (step : Step) (env : Environment) :
    Invocation where
  program := step.program
  arguments := step.arguments
  vars := some env.toPairs
  directory := step.directory
  timeout := r.settings.timeout
  silence := silenceWatch r.settings
  grace := r.settings.gracePeriod
  secrets := r.secretsOf secrets env

/-- What a step did. -/
structure StepRun (σ : Type) where
  host : σ
  result : StepResult
  outputs : List Declaration := []
  output : Bytes := []
  log : List LogEntry := []

/-- A step whose process was lost after its start. -/
structure Loss (σ : Type) where
  host : σ
  fault : SystemFault
  output : Bytes
  log : List LogEntry

/-- A step that failed before its process ran. -/
def notRun (host : σ) (index : Nat) (step : Step) (status : Status) (e : Error)
    (log : List LogEntry) : StepRun σ where
  host
  result := {
    index, title := step.title, status, exitCode := notRunCode, errorMessage := some e.message }
  log

/-- The declarations that a step exported to the file at a path. -/
def exportsOf (host : Host σ) (path : String) (state : σ) : List Declaration × List LogEntry :=
  match Exports.loadOptional path (host.read path state) with
  | .ok declarations => (declarations, [])
  | .error e => ([], [.exportsUnreadable e])

/-- Run the process of a step in its environment. -/
def runProcess (r : Runner σ) (host : Host σ) (secrets : SecretSet) (index : Nat) (step : Step)
    (path : String) (env : Environment) (state : σ) : Except (Loss σ) (StepRun σ) :=
  let program := r.invocation secrets step env
  match program.run host state with
  | .refused =>
    let e := Error.notStarted program.commandLine
    let (outputs, log) := exportsOf host path state
    let failed := notRun state index step .failed e [.notStarted step.title e]
    .ok { failed with outputs, log := failed.log ++ log }
  | .lost abort fault output state =>
    .error { host := state, fault, output, log := program.abortEntries abort }
  | .ended run state =>
    let (outputs, log) := exportsOf host path state
    .ok {
      host := state
      result := {
        index, title := step.title, status := run.outcome.status, exitCode := run.outcome.exitCode }
      outputs, output := run.output, log := run.log ++ log }

/-- Run a step whose file is at a path. -/
def runWith (r : Runner σ) (host : Host σ) (secrets : SecretSet) (index : Nat) (step : Step)
    (scopes : Scopes) (path : String) (state : σ) : Except (Loss σ) (StepRun σ) :=
  let (source, log) := r.restoredSource host state
  match resolve (declarationsOf scopes step path) source with
  | .error e =>
    .ok (notRun state index step .preparationFailed e (log ++ [.notPrepared step.title e]))
  | .ok resolution =>
    match r.runProcess host secrets index step path resolution.result state with
    | .error loss => .error { loss with log := log ++ loss.log }
    | .ok run => .ok { run with log := log ++ run.log }

/-- The session after a step did what it did. -/
def fileResult (session : Session σ) (run : StepRun σ) (scopes : Scopes) : Session σ :=
  let results := session.results.record run.result
  let announced := if scopes.announcesFailure results then [LogEntry.buildFails] else []
  { session with
    host := run.host
    scopes := scopes.update run.outputs results
    results
    output := session.output ++ run.output
    progress := session.progress ++ [.finished run.result]
    log := session.log ++ run.log ++ announced }

/-- Run a step. It fails only if the step's file cannot be made or its process is lost. -/
def runStep (r : Runner σ) (host : Host σ) (secrets : SecretSet) (total index : Nat) (step : Step)
    (session : Session σ) : Session σ × Option Error :=
  let session := { session with
    progress := session.progress ++ [.starting step.title index total] }
  match host.newFile r.settings.exportDirectory session.host with
  | .error e => (session, some (.system e))
  | .ok (path, state) =>
    let scopes := session.scopes.enter step.plan
    match r.runWith host secrets index step scopes path state with
    | .error loss =>
      ({ session with
        host := host.remove path loss.host
        scopes
        output := session.output ++ loss.output
        log := session.log ++ loss.log }, some (.system loss.fault))
    | .ok run => (fileResult session { run with host := host.remove path run.host } scopes, none)

/-- Run the steps from a place in the list on. -/
def runFrom (r : Runner σ) (host : Host σ) (secrets : SecretSet) (total : Nat) :
    Nat → List Step → Session σ → Session σ × Option Error
  | _, [], session => (session, none)
  | index, step :: steps, session =>
    match r.runStep host secrets total index step session with
    | (session, none) => r.runFrom host secrets total (index + 1) steps session
    | (session, some e) => (session, some e)

/-- The secrets of a run. -/
def runSecrets (r : Runner σ) (scopes : Scopes) : Except Error SecretSet :=
  if r.filters then SecretSet.ofDeclarations scopes.secrets else .ok {}

/-- What is logged before the first step. -/
def openingEntries (r : Runner σ) (host : Host σ) (state : σ) : List LogEntry :=
  match r.settings.clearedPath with
  | none => []
  | some path => ClearedVariables.entries path (host.read path state)

/-- What is logged after the last step. -/
def closingEntry (results : Results) : LogEntry :=
  .finished results.workflow results.success.length results.failed.length results.skipped.length

/-- Run all steps of a workflow. The session says how far the run came; an error says that it ended
early. -/
def run (r : Runner σ) (host : Host σ) (workflow : String) (steps : List Step) (scopes : Scopes)
    (state : σ) : Session σ × Option Error :=
  let session : Session σ := { host := state, scopes, results := { workflow } }
  match r.runSecrets scopes with
  | .error e => (session, some e)
  | .ok secrets =>
    let session := { session with log := r.openingEntries host state }
    match r.runFrom host secrets steps.length 0 steps session with
    | (session, none) =>
      ({ session with log := session.log ++ [closingEntry session.results] }, none)
    | stopped => stopped

end Runner

end Stepwise
