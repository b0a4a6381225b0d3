import Stepwise.Proofs.Scopes.Growth

/-!
# What later steps see of a step's outputs

Two runs that differ in the outputs of one step only go through the same bundles and announce the
same failures. Every later step of the second run sees what it sees in the first one, and the
outputs.

* `Adds`: scopes that hold some declarations beside those of others.
* `Adds.afterAll`, `Adds.mem_visible`: events keep it so, and a step sees those declarations.
* `adds_update`: **the outputs of a step are seen by every later step**, and nothing else changes.
-/

namespace Stepwise.Scopes

/-- The scopes `t` are those of `s` with the declarations of `extra` somewhere among them. -/
structure Adds (extra : List Declaration) (s t : Scopes) : Prop where
  bundleId : t.bundleId = s.bundleId
  buildFailed : t.buildFailed = s.buildFailed
  workflow : ∀ d, d ∈ t.workflow ↔ d ∈ extra ∨ d ∈ s.workflow
  bundle : s.inBundle = true → ∀ d, d ∈ t.bundle ↔ d ∈ extra ∨ d ∈ s.bundle

variable {extra : List Declaration} {s t : Scopes}

namespace Adds

theorem inBundle (h : Adds extra s t) : t.inBundle = s.inBundle := by
  unfold Scopes.inBundle
  rw [h.bundleId]

theorem startWorkflow (h : Adds extra s t) (declarations : List Declaration) :
    Adds extra (s.startWorkflow declarations) (t.startWorkflow declarations) where
  bundleId := h.bundleId
  buildFailed := h.buildFailed
  workflow d := by
    simp only [Scopes.startWorkflow, List.mem_append, h.workflow d, or_assoc]
  bundle := h.bundle

theorem enter (h : Adds extra s t) (plan : Plan) : Adds extra (s.enter plan) (t.enter plan) := by
  unfold Scopes.enter
  rw [h.bundleId]
  split
  · exact h
  · refine ⟨rfl, h.buildFailed, h.workflow, fun hin d => ?_⟩
    have hplan : plan.inBundle = true := hin
    simp only [hplan, if_true, List.mem_append, h.workflow d, or_assoc]

theorem update (h : Adds extra s t) (outputs : List Declaration) (results : Results) :
    Adds extra (s.update outputs results) (t.update outputs results) := by
  have hadded : t.additions outputs results = s.additions outputs results := by
    rw [additions_eq, additions_eq, h.buildFailed]
  refine ⟨h.bundleId, ?_, fun d => ?_, fun hin d => ?_⟩
  · show (t.buildFailed || _) = (s.buildFailed || _)
    rw [h.buildFailed]
  · simp only [Scopes.update, hadded, List.mem_append, h.workflow d, or_assoc]
  · have hs : s.inBundle = true := hin
    simp only [Scopes.update, hadded, h.inBundle, hs, if_true, List.mem_append, h.bundle hs d,
      or_assoc]

/-- **The same event** keeps the two scopes as they are to each other. -/
theorem after (h : Adds extra s t) (e : Event) : Adds extra (s.after e) (t.after e) := by
  cases e with
  | startWorkflow declarations => exact h.startWorkflow declarations
  | startStep plan => exact h.enter plan
  | finishStep outputs results => exact h.update outputs results

theorem afterAll (h : Adds extra s t) (events : List Event) :
    Adds extra (s.afterAll events) (t.afterAll events) := by
  induction events generalizing s t with
  | nil => exact h
  | cons e events ih => exact ih (h.after e)

theorem mem_visible (h : Adds extra s t) (d : Declaration) :
    d ∈ t.visible ↔ d ∈ extra ∨ d ∈ s.visible := by
  unfold Scopes.visible
  rw [h.inBundle]
  split
  · rename_i hin
    exact h.bundle hin d
  · exact h.workflow d

end Adds

/-- **The outputs of a step are added** to what is there without them, in both scopes. -/
theorem adds_update (s : Scopes) (outputs : List Declaration) (results : Results) :
    Adds outputs (s.update [] results) (s.update outputs results) := by
  refine ⟨rfl, rfl, fun d => ?_, fun hin d => ?_⟩
  · simp only [update, additions_eq, List.nil_append, List.mem_append]
    exact or_left_comm
  · have hs : s.inBundle = true := hin
    simp only [update, additions_eq, List.nil_append, hs, if_true, List.mem_append]
    exact or_left_comm

end Stepwise.Scopes
