import Stepwise.Log
import Stepwise.Files
import Stepwise.Output.Sink
import Stepwise.Results.Status
import Stepwise.Silence.Detector

/-!
# Processes of steps

An `Invocation` (`TimeoutCommand`) says which program is started, with which variables and limits.
The system on which it is started, a `Host`, answers with the process's `Behaviour`: the chunks of
output in the order of their arrival, and how the process ended. From that follow the outcome
(`CommandOutcome`), the output that is shown and the entries of the log.

The system may also refuse to start the program, or lose the process after its start, because it
cannot be waited for or its output cannot be passed on. Of a lost process only that much is known.

* `Invocation.run` (`run`): what comes of a program on a host.
* `Behaviour.outcome`: the outcome of a process that ended.
-/

namespace Stepwise

/-- How the silence of a process is watched. -/
structure SilenceWatch where
  detector : Detector
  /-- The time between two ticks. -/
  interval : Duration
  deriving DecidableEq

/-- A program to start. -/
structure Invocation where
  program : String
  arguments : List String := []
  /-- All variables of the process; without them it has those of the runner. -/
  vars : Option (List (String × String)) := none
  directory : Option String := none
  timeout : Option Duration := none
  silence : Option SilenceWatch := none
  /-- The time that the process has to end by itself once it is told to. -/
  grace : Duration := .ofSeconds 5
  /-- What is hidden in the output, if anything is. -/
  secrets : Option SecretSet := none
  deriving DecidableEq

namespace Invocation

/-- The time between two ticks unless settings say otherwise. -/
def defaultInterval : Duration := .ofSeconds 30

/-- The program with its arguments, for people. -/
def commandLine (i : Invocation) : String :=
  " ".intercalate (i.program :: i.arguments)

end Invocation

/-- Why a process was told to end. -/
inductive Abort where
  | silent
  | timedOut
  deriving DecidableEq, Inhabited

/-- What a started process did. -/
structure Behaviour where
  chunks : List Chunk
  abort : Option Abort
  /-- The exit code; a process ended by a signal has none. -/
  exitCode : Option Int
  deriving DecidableEq

/-- What comes of a program that is to be run. -/
inductive Attempt (α σ : Type) where
  /-- It cannot be started. -/
  | refused
  /-- It was started, but the system cannot wait for it or pass on its output. The destination was
  given some bytes before. -/
  | lost (abort : Option Abort) (fault : SystemFault) (forwarded : Bytes) (state : σ)
  /-- It ran to its end, and all of its output was passed on. -/
  | ended (result : α) (state : σ)

/-- The system on which steps are run. -/
structure Host (σ : Type) where
  /-- Make a new file for the variables that a step exports, in a directory if one is given. -/
  newFile : Option String → σ → Except SystemFault (String × σ)
  read : String → σ → FileRead
  remove : String → σ → σ
  /-- Run a process to its end, if it can be started. -/
  start : Invocation → σ → Attempt Behaviour σ

/-- How a process ended. -/
structure Outcome where
  status : Status
  exitCode : Int
  deriving DecidableEq

namespace Behaviour

/-- The exit code of a process that was ended by a signal. -/
def signalCode : Int := -1

/-- The outcome of a process. -/
def status (b : Behaviour) : Status :=
  match b.abort with
  | some .silent => .abortedWithNoOutput
  | some .timedOut => .abortedWithCustomTimeout
  | none => if b.exitCode = some 0 then .success else .failed

def outcome (b : Behaviour) : Outcome := ⟨b.status, b.exitCode.getD signalCode⟩

end Behaviour

/-- What is logged of a process that was told to end. -/
def Invocation.abortEntries (i : Invocation) : Option Abort → List LogEntry
  | some .silent => [.silent i.commandLine]
  | some .timedOut => [.timedOut i.commandLine]
  | none => []

/-- What running a process gives. -/
structure Run where
  outcome : Outcome
  output : Bytes
  log : List LogEntry

/-- The run of a process that ended. -/
def Invocation.runOf (i : Invocation) (b : Behaviour) : Run where
  outcome := b.outcome
  output := (Sink.of i.secrets).copy b.chunks
  log := i.abortEntries b.abort

/-- Run a program on a host. -/
def Invocation.run {σ : Type} (host : Host σ) (i : Invocation) (state : σ) : Attempt Run σ :=
  match host.start i state with
  | .refused => .refused
  | .lost abort fault forwarded state => .lost abort fault forwarded state
  | .ended b state => .ended (i.runOf b) state

end Stepwise
