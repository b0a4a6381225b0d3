import Stepwise.Error

/-!
# The log of a run

What a run has to tell beside its output and its results (`run_with_progress`, `run_step`). An entry
keeps the error that it is about, so that the error can be shown in more than one way.
-/

namespace Stepwise

/-- How much an entry matters. -/
inductive LogLevel where
  | info
  | warning
  deriving DecidableEq

/-- The name of a level. -/
def LogLevel.name : LogLevel → String
  | .info => "INFO"
  | .warning => "WARN"

/-- An entry of the log. -/
inductive LogEntry where
  /-- The file of cleared variables cannot be read, so nobody knows which were removed. -/
  | clearedUnreadable (error : Error)
  /-- Variables were removed. -/
  | clearedNotice (notice : String)
  /-- The file of cleared variables cannot be read, so they keep their empty values. -/
  | clearedIgnored (error : Error)
  | notPrepared (title : String) (error : Error)
  | notStarted (title : String) (error : Error)
  | silent (commandLine : String)
  | timedOut (commandLine : String)
  /-- The variables that a step exported cannot be read. -/
  | exportsUnreadable (error : Error)
  | buildFails
  | finished (workflow : String) (succeeded failed skipped : Nat)

namespace LogEntry

/-- The level of an entry. -/
def level : LogEntry → LogLevel
  | .buildFails | .finished .. => .info
  | _ => .warning

/-- The words before the error that an entry is about, and the error. -/
def aboutError? : LogEntry → Option (String × Error)
  | .clearedUnreadable e => some ("Failed to load envfile at $RUNWAY_ENVFILE_PATH: ", e)
  | .clearedIgnored e => some ("Ignoring envfile: ", e)
  | .notPrepared title e => some ("Failed to prepare environment of step '" ++ title ++ "': ", e)
  | .notStarted title e => some ("Step '" ++ title ++ "' could not be started: ", e)
  | .exportsUnreadable e => some ("Failed to read step outputs: ", e)
  | _ => none

/-- The words of an entry that is about no error. -/
def words : LogEntry → String
  | .clearedNotice notice => notice
  | .silent line => line ++ " produced no output, aborting"
  | .timedOut line => line ++ " timed out, aborting"
  | .buildFails => "Build started failing, exposing failure status to later steps"
  | .finished workflow succeeded failed skipped =>
    "Workflow " ++ workflow ++ " finished: " ++ toString succeeded ++ " succeeded, " ++
      toString failed ++ " failed, " ++ toString skipped ++ " skipped"
  | _ => ""

/-- An entry as text. -/
def text (entry : LogEntry) : String :=
  match entry.aboutError? with
  | some (words, e) => words ++ e.message
  | none => entry.words

end LogEntry

end Stepwise
