import Stepwise.Declaration.Options
import Stepwise.Results.Basic

/-!
# Variables that describe the run

The runner tells every step how the build stands, which workflow was started, and, once the build
has failed, which step failed it and why. The last two are taken literally, since a message may
hold a `$`.

* `Announcements.buildStatus` (`build_status_envs`): how the build stands.
* `Announcements.failedStep` (`failed_step_envs`): which step failed it.
* `Announcements.triggeredWorkflow` (`triggered_workflow_envs`): which workflow was started.
-/

namespace Stepwise.Announcements

def buildStatusKey : String := "RUNWAY_BUILD_STATUS"
def stepLibraryStatusKey : String := "STEPLIB_BUILD_STATUS"
def failedTitleKey : String := "RUNWAY_FAILED_STEP_TITLE"
def failedMessageKey : String := "RUNWAY_FAILED_STEP_ERROR_MESSAGE"
def workflowIdKey : String := "RUNWAY_TRIGGERED_WORKFLOW_ID"
def workflowTitleKey : String := "RUNWAY_TRIGGERED_WORKFLOW_TITLE"
def envstoreKey : String := "RUNWAY_ENVSTORE_PATH"
def formattedOutputKey : String := "RUNWAY_STEP_FORMATTED_OUTPUT_FILE_PATH"

/-- How a build stands, as a value. -/
def statusText (failed : Bool) : String := if failed then "1" else "0"

/-- How the build stands. -/
def buildStatus (failed : Bool) : List Declaration :=
  [.plain buildStatusKey (statusText failed), .plain stepLibraryStatusKey (statusText failed)]

/-- Which step failed the build, and why. -/
def failedStep (r : StepResult) : List Declaration :=
  [.literal failedTitleKey r.title, .literal failedMessageKey r.failureReason]

/-- Which workflow was started. -/
def triggeredWorkflow (id title : String) : List Declaration :=
  [.plain workflowIdKey id, .plain workflowTitleKey title]

end Stepwise.Announcements
