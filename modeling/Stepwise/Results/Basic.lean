import Stepwise.Results.Status

/-!
# Results of a run

Every finished step is filed under its outcome, in one of four lists. What a run says of itself is
read off the lists: whether the build failed, its exit code, and the results in the order of the
steps.

* `StepResult` (`StepRunResult`): what is known of a finished step.
* `Results` (`BuildRunResults`): the lists. `Results.record` (`record`): one more step.
* `Results.exitCode` (`exit_code`), `Results.ordered` (`ordered_results`): what is read off.
-/

namespace Stepwise

/-- The result of one step. -/
structure StepResult where
  /-- The place of the step in the run. -/
  index : Nat
  title : String
  status : Status
  exitCode : Int
  errorMessage : Option String := none
  deriving DecidableEq, Inhabited

/-- Why a step failed, in words: its error message, or else the reason of its outcome. -/
def StepResult.failureReason (r : StepResult) : String :=
  r.errorMessage.getD (r.status.reason r.exitCode)

/-- The lists that results are filed under. -/
inductive Shelf where
  | success
  | failed
  | failedSkippable
  | skipped
  deriving DecidableEq

/-- Where a result with this outcome is filed. -/
def Status.shelf : Status → Shelf
  | .success => .success
  | .failedSkippable => .failedSkippable
  | .skipped | .skippedWithRunIf => .skipped
  | .failed | .preparationFailed | .abortedWithCustomTimeout | .abortedWithNoOutput => .failed

/-- The results of the finished steps. -/
structure Results where
  workflow : String
  success : List StepResult := []
  failed : List StepResult := []
  failedSkippable : List StepResult := []
  skipped : List StepResult := []
  deriving DecidableEq, Inhabited

namespace Results

/-- File a result. -/
def record (rs : Results) (r : StepResult) : Results :=
  match r.status.shelf with
  | .success => { rs with success := rs.success ++ [r] }
  | .failed => { rs with failed := rs.failed ++ [r] }
  | .failedSkippable => { rs with failedSkippable := rs.failedSkippable ++ [r] }
  | .skipped => { rs with skipped := rs.skipped ++ [r] }

/-- File results in order. -/
def recordAll (rs : Results) (results : List StepResult) : Results :=
  results.foldl record rs

/-- Whether a step failed. -/
def isBuildFailed (rs : Results) : Bool := !rs.failed.isEmpty

/-- Whether a step failed in a way that does not matter. -/
def hasFailedSkippable (rs : Results) : Bool := !rs.failedSkippable.isEmpty

/-- All results, list by list. -/
def all (rs : Results) : List StepResult :=
  rs.success ++ rs.failed ++ rs.failedSkippable ++ rs.skipped

/-- The number of results. -/
def count (rs : Results) : Nat :=
  rs.success.length + rs.failed.length + rs.failedSkippable.length + rs.skipped.length

/-- Whether a result filed as a failure has the given outcome. -/
def anyFailedWith (rs : Results) (status : Status) : Bool :=
  rs.failed.any (·.status = status)

/-- The exit code of the build. Silence counts before a timeout, and a timeout before other
failures. -/
def exitCode (rs : Results) : Int :=
  if !rs.isBuildFailed then 0
  else if rs.anyFailedWith .abortedWithNoOutput then 3
  else if rs.anyFailedWith .abortedWithCustomTimeout then 2
  else 1

/-- The results in the order of the steps; those of one step stay list by list. -/
def ordered (rs : Results) : List StepResult :=
  rs.all.mergeSort fun a b => a.index ≤ b.index

end Results

end Stepwise
