import Stepwise.Scopes.Basic

/-!
# How scopes grow

What a list of events adds to the scopes, told from the events alone.

* `announcement`: what is added when results show the first failure of a run.
* `Event.additions`, `grown`: what an event and a list of events add, given whether the failure of
  the build was announced before.
* `additions_eq`: an update adds its outputs and, unless there was one before, an announcement.
* `workflow_afterAll`, `buildFailed_afterAll`: **the workflow scope and the failure of the build
  after a list of events**.
-/

namespace Stepwise.Scopes

/-- What is added when the results of a run hold these failures for the first time: the title of the
step and its reason if there is one failure only, and that the build failed. The reason is the error
message of the step, or else that of its outcome. -/
def announcement : List StepResult → List Declaration
  | [] => []
  | [r] =>
    [.literal "RUNWAY_FAILED_STEP_TITLE" r.title,
     .literal "RUNWAY_FAILED_STEP_ERROR_MESSAGE"
       (r.errorMessage.getD (r.status.reason r.exitCode)),
     .plain "RUNWAY_BUILD_STATUS" "1", .plain "STEPLIB_BUILD_STATUS" "1"]
  | _ :: _ :: _ =>
    [.plain "RUNWAY_BUILD_STATUS" "1", .plain "STEPLIB_BUILD_STATUS" "1"]

namespace Event

/-- Whether an event is an update with results that hold a failure. -/
def sawFailure : Event → Bool
  | .finishStep _ results => results.isBuildFailed
  | _ => false

/-- Whether an event is an update. -/
def isUpdate : Event → Bool
  | .finishStep .. => true
  | _ => false

/-- The declarations that an event adds to the workflow scope. -/
def additions (announced : Bool) : Event → List Declaration
  | .startWorkflow declarations => declarations
  | .startStep _ => []
  | .finishStep outputs results => outputs ++ if announced then [] else announcement results.failed

theorem sawFailure_of_not_isUpdate {e : Event} (h : e.isUpdate = false) : e.sawFailure = false := by
  cases e with
  | finishStep outputs results => exact absurd h nofun
  | startWorkflow declarations => rfl
  | startStep plan => rfl

end Event

/-- The declarations that events add to the workflow scope, in order. -/
def grown (announced : Bool) : List Event → List Declaration
  | [] => []
  | e :: events => e.additions announced ++ grown (announced || e.sawFailure) events

/-! ## One event -/

/-- **An update adds its outputs**, and after them an announcement if there was none before. -/
theorem additions_eq (s : Scopes) (outputs : List Declaration) (results : Results) :
    s.additions outputs results =
      outputs ++ if s.buildFailed then [] else announcement results.failed := by
  unfold additions announcesFailure Results.isBuildFailed failureDeclarations
  cases s.buildFailed with
  | true => simp
  | false =>
    match results.failed with
    | [] => simp [announcement]
    | [r] => rfl
    | _ :: _ :: _ => rfl

theorem workflow_after (s : Scopes) (e : Event) :
    (s.after e).workflow = s.workflow ++ e.additions s.buildFailed := by
  cases e with
  | startWorkflow declarations => rfl
  | startStep plan =>
    show (s.enter plan).workflow = s.workflow ++ []
    unfold enter
    split <;> exact (List.append_nil _).symm
  | finishStep outputs results =>
    show s.workflow ++ s.additions outputs results = _
    rw [additions_eq]
    rfl

theorem buildFailed_after (s : Scopes) (e : Event) :
    (s.after e).buildFailed = (s.buildFailed || e.sawFailure) := by
  cases e with
  | startWorkflow declarations => exact (Bool.or_false _).symm
  | startStep plan =>
    show (s.enter plan).buildFailed = (s.buildFailed || false)
    unfold enter
    split <;> exact (Bool.or_false _).symm
  | finishStep outputs results => rfl

/-! ## Lists of events -/

theorem afterAll_cons (s : Scopes) (e : Event) (events : List Event) :
    s.afterAll (e :: events) = (s.after e).afterAll events := rfl

theorem afterAll_append (s : Scopes) (first second : List Event) :
    s.afterAll (first ++ second) = (s.afterAll first).afterAll second :=
  List.foldl_append

/-- **The build has failed** once an update saw a failure. -/
theorem buildFailed_afterAll (s : Scopes) (events : List Event) :
    (s.afterAll events).buildFailed = (s.buildFailed || events.any Event.sawFailure) := by
  induction events generalizing s with
  | nil => exact (Bool.or_false _).symm
  | cons e events ih =>
    rw [afterAll_cons, ih, buildFailed_after, List.any_cons, Bool.or_assoc]

/-- **The workflow scope grows** by what the events add. -/
theorem workflow_afterAll (s : Scopes) (events : List Event) :
    (s.afterAll events).workflow = s.workflow ++ grown s.buildFailed events := by
  induction events generalizing s with
  | nil => exact (List.append_nil _).symm
  | cons e events ih =>
    rw [afterAll_cons, ih, workflow_after, buildFailed_after, grown, List.append_assoc]

end Stepwise.Scopes
