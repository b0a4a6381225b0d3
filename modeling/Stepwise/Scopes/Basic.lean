import Stepwise.Scopes.Announcements
import Stepwise.Scopes.Plan

/-!
# Scopes of a run

A run keeps the declarations that its steps see in scopes (`WorkflowEnvManager`). The workflow scope
only grows. A bundle scope starts as the workflow scope and the declarations of the bundle when
execution enters the bundle, grows with the outputs of its steps, and is given up when execution
leaves the bundle, also for another one. The secrets never change.

After the first update that sees a failed step, both scopes say that the build failed; they say
which step failed it only if that was a single one. This happens once in a run.

* `Scopes.start` (`new`), `Scopes.startWorkflow` (`workflow_start`): the scopes before the steps.
* `Scopes.enter`, `Scopes.visible` (`envs_for_step_start`): execution comes to a step, and what the
  step sees.
* `Scopes.update` (`update_with_step_finished`): a step is finished.
-/

namespace Stepwise

/-- The declarations of a run, by scope. -/
structure Scopes where
  secrets : List Declaration
  workflow : List Declaration
  /-- The bundle scope; empty outside a bundle. -/
  bundle : List Declaration := []
  /-- The bundle of the last step that was started; empty outside a bundle. -/
  bundleId : String := ""
  /-- Whether the failure has been announced. -/
  buildFailed : Bool := false
  deriving Inhabited

namespace Scopes

/-- The scopes at the start of a run. Of one name, later declarations win. -/
def start (runtime secrets app : List Declaration) (id title : String)
    (workflow : List Declaration) : Scopes where
  secrets
  workflow := runtime ++ secrets ++ app ++ Announcements.buildStatus false ++
    Announcements.triggeredWorkflow id title ++ workflow

/-- Another workflow of the run begins. -/
def startWorkflow (s : Scopes) (declarations : List Declaration) : Scopes :=
  { s with workflow := s.workflow ++ declarations }

/-- Whether execution is inside a bundle. -/
def inBundle (s : Scopes) : Bool := s.bundleId ≠ ""

/-- The scopes once execution is where the plan says. -/
def enter (s : Scopes) (plan : Plan) : Scopes :=
  if plan.bundle = s.bundleId then s
  else
    { s with
      bundleId := plan.bundle
      bundle := if plan.inBundle then s.workflow ++ plan.bundleDeclarations else [] }

/-- The declarations that a step sees now. -/
def visible (s : Scopes) : List Declaration :=
  if s.inBundle then s.bundle else s.workflow

/-- Whether an update with these results announces the failure of the build. -/
def announcesFailure (s : Scopes) (results : Results) : Bool :=
  !s.buildFailed && results.isBuildFailed

/-- What the failure of the build adds to the scopes. -/
def failureDeclarations (results : Results) : List Declaration :=
  (match results.failed with
    | [r] => Announcements.failedStep r
    | _ => []) ++ Announcements.buildStatus true

/-- What an update adds to the scopes. -/
def additions (s : Scopes) (outputs : List Declaration) (results : Results) : List Declaration :=
  if s.announcesFailure results then outputs ++ failureDeclarations results else outputs

/-- A step finished: its outputs, and perhaps the failure of the build, become visible. -/
def update (s : Scopes) (outputs : List Declaration) (results : Results) : Scopes :=
  let added := s.additions outputs results
  { s with
    workflow := s.workflow ++ added
    bundle := if s.inBundle then s.bundle ++ added else s.bundle
    buildFailed := s.buildFailed || results.isBuildFailed }

/-! ## Runs -/

/-- One thing that happens to the scopes. -/
inductive Event where
  | startWorkflow (declarations : List Declaration)
  | startStep (plan : Plan)
  | finishStep (outputs : List Declaration) (results : Results)

/-- The scopes after an event. -/
def after (s : Scopes) : Event → Scopes
  | .startWorkflow declarations => s.startWorkflow declarations
  | .startStep plan => s.enter plan
  | .finishStep outputs results => s.update outputs results

/-- The scopes after a list of events. -/
def afterAll (s : Scopes) (events : List Event) : Scopes :=
  events.foldl after s

end Scopes

end Stepwise
