/-!
# The outcome of a step

Every step ends in one of eight ways (`StepRunStatus`). Each has a code and a name that never
change, counts as a failure of the build or does not, and has a reason in words.
-/

namespace Stepwise

/-- How a step ended. -/
inductive Status where
  | success
  | failed
  /-- It failed, and that does not matter. -/
  | failedSkippable
  | skipped
  /-- A condition kept it from running. -/
  | skippedWithRunIf
  /-- Its environment could not be prepared. -/
  | preparationFailed
  /-- It was ended for running too long. -/
  | abortedWithCustomTimeout
  /-- It was ended for being silent too long. -/
  | abortedWithNoOutput
  deriving DecidableEq, Inhabited

namespace Status

/-- All outcomes, in the order of their codes. -/
def all : List Status :=
  [.success, .failed, .failedSkippable, .skipped, .skippedWithRunIf, .preparationFailed,
   .abortedWithCustomTimeout, .abortedWithNoOutput]

/-- The code of an outcome. -/
def code : Status → Int
  | .success => 0
  | .failed => 1
  | .failedSkippable => 2
  | .skipped => 3
  | .skippedWithRunIf => 4
  | .preparationFailed => 5
  | .abortedWithCustomTimeout => 7
  | .abortedWithNoOutput => 8

/-- The outcome of a code. -/
def ofCode? (code : Int) : Option Status :=
  all.find? (·.code = code)

/-- The name of an outcome. -/
def name : Status → String
  | .success => "success"
  | .failed => "failed"
  | .failedSkippable => "failed_skippable"
  | .skipped => "skipped"
  | .skippedWithRunIf => "skipped_with_run_if"
  | .preparationFailed => "preparation_failed"
  | .abortedWithCustomTimeout => "aborted_with_custom_timeout"
  | .abortedWithNoOutput => "aborted_with_no_output"

/-- The outcome of a name. -/
def ofName? (name : String) : Option Status :=
  all.find? (·.name = name)

/-- Whether the outcome is a failure of the build. -/
def isFailure : Status → Bool
  | .failed | .preparationFailed | .abortedWithCustomTimeout | .abortedWithNoOutput => true
  | .success | .failedSkippable | .skipped | .skippedWithRunIf => false

/-- The reason of an outcome in words, given the exit code of the step's process. -/
def reason (exitCode : Int) : Status → String
  | .success | .skipped | .skippedWithRunIf => ""
  | .failed | .preparationFailed | .failedSkippable => "exit code: " ++ toString exitCode
  | .abortedWithCustomTimeout => "timed out"
  | .abortedWithNoOutput => "timed out due to no output"

theorem ofCode?_code (s : Status) : ofCode? s.code = some s := by cases s <;> rfl

theorem ofName?_name (s : Status) : ofName? s.name = some s := by
  cases s <;> simp [ofName?, all, name]

end Status

end Stepwise
