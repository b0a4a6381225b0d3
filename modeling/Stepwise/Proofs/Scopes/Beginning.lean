import Stepwise.Scopes.Basic

/-!
# What every scope begins with

Scopes grow at their end, and a bundle scope begins as a copy of the workflow scope. So what stands
at the beginning of the workflow scope stands at the beginning of what any later step sees.

* `BeginsWith`: both scopes begin with a list of declarations.
* `BeginsWith.afterAll`, `BeginsWith.visible`: events keep it so, and a step sees it.
* `secrets_afterAll`: the secrets never change.
* `visible_start`: **a step sees the variables of the runtime and the secrets first**, whatever
  happened before.
-/

namespace Stepwise.Scopes

/-- The workflow scope begins with `first`, and so does the bundle scope inside a bundle. -/
structure BeginsWith (first : List Declaration) (s : Scopes) : Prop where
  workflow : first <+: s.workflow
  bundle : s.inBundle = true → first <+: s.bundle

variable {first : List Declaration} {s : Scopes}

theorem BeginsWith.startWorkflow (h : BeginsWith first s) (declarations : List Declaration) :
    BeginsWith first (s.startWorkflow declarations) where
  workflow := h.workflow.trans (List.prefix_append _ _)
  bundle := h.bundle

theorem BeginsWith.enter (h : BeginsWith first s) (plan : Plan) :
    BeginsWith first (s.enter plan) := by
  unfold Scopes.enter
  split
  · exact h
  · refine ⟨h.workflow, fun hin => ?_⟩
    have hplan : plan.inBundle = true := hin
    simp only [hplan, if_true]
    exact h.workflow.trans (List.prefix_append _ _)

theorem BeginsWith.update (h : BeginsWith first s) (outputs : List Declaration)
    (results : Results) : BeginsWith first (s.update outputs results) where
  workflow := h.workflow.trans (List.prefix_append _ _)
  bundle := fun hin => by
    have hs : s.inBundle = true := hin
    simp only [Scopes.update, hs, if_true]
    exact (h.bundle hs).trans (List.prefix_append _ _)

/-- **Every event keeps the beginning of the scopes.** -/
theorem BeginsWith.after (h : BeginsWith first s) (e : Event) : BeginsWith first (s.after e) := by
  cases e with
  | startWorkflow declarations => exact h.startWorkflow declarations
  | startStep plan => exact h.enter plan
  | finishStep outputs results => exact h.update outputs results

theorem BeginsWith.afterAll (h : BeginsWith first s) (events : List Event) :
    BeginsWith first (s.afterAll events) := by
  induction events generalizing s with
  | nil => exact h
  | cons e events ih => exact ih (h.after e)

/-- What a step sees begins as the scopes do. -/
theorem BeginsWith.visible (h : BeginsWith first s) : first <+: s.visible := by
  unfold Scopes.visible
  split
  · rename_i hin
    exact h.bundle hin
  · exact h.workflow

theorem beginsWith_start (runtime secrets app : List Declaration) (id title : String)
    (workflow : List Declaration) :
    BeginsWith (runtime ++ secrets) (start runtime secrets app id title workflow) where
  workflow := by
    simp only [start, List.append_assoc]
    exact ⟨_, List.append_assoc _ _ _⟩
  bundle := fun hin => absurd hin (by simp [start, inBundle])

/-- **A step sees the variables of the runtime and the secrets first.** -/
theorem visible_start (runtime secrets app : List Declaration) (id title : String)
    (workflow : List Declaration) (events : List Event) (plan : Plan) :
    runtime ++ secrets <+:
      (((start runtime secrets app id title workflow).afterAll events).enter plan).visible :=
  (((beginsWith_start runtime secrets app id title workflow).afterAll events).enter plan).visible

/-! ## The secrets of a run -/

theorem secrets_after (s : Scopes) (e : Event) : (s.after e).secrets = s.secrets := by
  cases e with
  | startWorkflow declarations => rfl
  | startStep plan =>
    show (s.enter plan).secrets = s.secrets
    unfold enter
    split <;> rfl
  | finishStep outputs results => rfl

/-- The secrets never change. -/
theorem secrets_afterAll (s : Scopes) (events : List Event) :
    (s.afterAll events).secrets = s.secrets := by
  induction events generalizing s with
  | nil => rfl
  | cons e events ih =>
    show ((s.after e).afterAll events).secrets = s.secrets
    rw [ih, secrets_after]

end Stepwise.Scopes
