import Stepwise.Proofs.Resolution
import Stepwise.Proofs.Scopes.Beginning
import Stepwise.Proofs.Scopes.Growth

/-!
# The failure of a build is announced once

The first update of a run that sees a failure says so in every scope that steps can see, after the
outputs of its step, so no output can hide it. Later updates add their outputs only.

* `activeScopes`: the scopes that a step can see now.
* `status_of_resolve`: declarations that end with the status of the build give both its variables.
* `failure_latch`: **the failure of a run**: when it is known, what each update adds to which scope,
  and what steps can see of it from then on.
-/

namespace Stepwise.Scopes

/-- The scopes that a step can see now: that of the workflow and, inside a bundle, that of the
bundle. -/
def activeScopes (s : Scopes) : List (List Declaration) :=
  if s.inBundle then [s.workflow, s.bundle] else [s.workflow]

/-! ## The status of the build -/

/-- The status of the build is two plain variables. -/
theorem continueFrom_buildStatus (failed : Bool) (done : Nat) (env added : Environment) :
    let status : Variable := ⟨Announcements.buildStatusKey, Announcements.statusText failed, false⟩
    let mirror : Variable :=
      ⟨Announcements.stepLibraryStatusKey, Announcements.statusText failed, false⟩
    Resolution.continueFrom done env added (Announcements.buildStatus failed) =
      .ok ⟨[.set status, .set mirror], (env.insert status).insert mirror,
        (added.insert status).insert mirror⟩ := by
  cases failed <;> rfl

/-- **Declarations that end with the status of the build** give it to both variables, whatever comes
before. -/
theorem status_of_resolve {declarations : List Declaration} {failed : Bool} {source : Environment}
    {r : Resolution} (hends : Announcements.buildStatus failed <:+ declarations)
    (h : resolve declarations source = .ok r) :
    r.result.value? Announcements.buildStatusKey = some (Announcements.statusText failed) ∧
      r.result.value? Announcements.stepLibraryStatusKey =
        some (Announcements.statusText failed) := by
  obtain ⟨earlier, rfl⟩ := hends
  obtain ⟨first, second, -, hsecond, rfl⟩ := Resolution.exists_of_continueFrom_append h
  rw [continueFrom_buildStatus, Except.ok.injEq] at hsecond
  have hne : Announcements.stepLibraryStatusKey ≠ Announcements.buildStatusKey := by decide
  simp only [← hsecond, Environment.value?, Environment.get?_insert]
  simp [hne]

/-- An announcement ends with the failed status of the build. -/
theorem buildStatus_suffix_announcement {failed : List StepResult} (h : failed ≠ []) :
    Announcements.buildStatus true <:+ announcement failed := by
  match failed, h with
  | [r], _ => exact ⟨Announcements.failedStep r, rfl⟩
  | _ :: _ :: _, _ => exact List.suffix_refl _

/-! ## Updates -/

theorem sawFailure_iff {events : List Event} :
    events.any Event.sawFailure = true ↔
      ∃ outputs results, .finishStep outputs results ∈ events ∧ results.failed ≠ [] := by
  rw [List.any_eq_true]
  constructor
  · rintro ⟨e, he, hsaw⟩
    cases e with
    | finishStep outputs results =>
      exact ⟨outputs, results, he, by simpa [Event.sawFailure, Results.isBuildFailed] using hsaw⟩
    | startWorkflow declarations => exact absurd hsaw nofun
    | startStep plan => exact absurd hsaw nofun
  · rintro ⟨outputs, results, he, hfailed⟩
    exact ⟨_, he, by simpa [Event.sawFailure, Results.isBuildFailed] using hfailed⟩

/-- What an update adds is at the end of each scope that a step can see after it. -/
theorem additions_suffix_active {s : Scopes} {outputs : List Declaration} {results : Results}
    {scope : List Declaration} (h : scope ∈ (s.update outputs results).activeScopes) :
    s.additions outputs results <:+ scope := by
  have hin : (s.update outputs results).inBundle = s.inBundle := rfl
  unfold activeScopes at h
  rw [hin] at h
  have hworkflow : s.additions outputs results <:+ (s.update outputs results).workflow :=
    List.suffix_append _ _
  by_cases hs : s.inBundle = true
  · have hbundle : s.additions outputs results <:+ (s.update outputs results).bundle := by
      unfold update
      simp only [hs, if_true]
      exact List.suffix_append _ _
    rw [if_pos hs] at h
    rcases List.mem_pair.mp h with rfl | rfl
    · exact hworkflow
    · exact hbundle
  · rw [if_neg hs] at h
    rw [List.mem_singleton.mp h]
    exact hworkflow

/-- After the announcement an update adds its outputs only. -/
theorem additions_of_buildFailed {s : Scopes} (h : s.buildFailed = true)
    (outputs : List Declaration) (results : Results) : s.additions outputs results = outputs := by
  rw [additions_eq, if_pos h, List.append_nil]

/-- A failure that was seen is not forgotten. -/
theorem buildFailed_mono {s : Scopes} (h : s.buildFailed = true) (later : List Event) :
    (s.afterAll later).buildFailed = true := by
  rw [buildFailed_afterAll, h, Bool.true_or]

/-- **The failure of a run.** It is known from the first update with results that hold a failed
step, and for ever. An update adds its outputs to the workflow scope and, inside a bundle, to the
bundle scope; the first that sees a failure adds the announcement after them. The secrets stay. So
the failure is announced once, and where a step can see declarations after the update that announces
it and they resolve, both variables say that the build failed, whatever the update's outputs are. -/
theorem failure_latch (runtime secrets app : List Declaration) (id title : String)
    (workflow : List Declaration) (events : List Event) :
    let run (events : List Event) := (start runtime secrets app id title workflow).afterAll events
    (((run events).buildFailed = true ↔
        ∃ outputs results, .finishStep outputs results ∈ events ∧ results.failed ≠ []) ∧
      ∀ later, (run events).buildFailed = true → (run (events ++ later)).buildFailed = true) ∧
    (∀ outputs results,
      let added := outputs ++ if (run events).buildFailed then [] else announcement results.failed
      (run (events ++ [.finishStep outputs results])).workflow = (run events).workflow ++ added ∧
      (run (events ++ [.finishStep outputs results])).bundle =
        if (run events).inBundle then (run events).bundle ++ added else (run events).bundle) ∧
    (run events).secrets = secrets ∧
    ∀ outputs results, (run events).buildFailed = false → results.failed ≠ [] →
      (∀ later outputs' results',
        (run (events ++ .finishStep outputs results :: later)).additions outputs' results' =
          outputs') ∧
      ∀ scope ∈ (run (events ++ [.finishStep outputs results])).activeScopes,
        ∀ source r, resolve scope source = .ok r →
          r.result.value? "RUNWAY_BUILD_STATUS" = some "1" ∧
          r.result.value? "STEPLIB_BUILD_STATUS" = some "1" := by
  intro run
  have hrun : ∀ outputs results, run (events ++ [.finishStep outputs results]) =
      (run events).update outputs results := fun outputs results =>
    afterAll_append _ events [.finishStep outputs results]
  refine ⟨⟨?_, fun later hfailed => ?_⟩, fun outputs results => ?_, ?_,
    fun outputs results hnot hseen =>
    ⟨fun later outputs' results' => ?_, fun scope hscope source r hresolve => ?_⟩⟩
  · rw [← sawFailure_iff]
    exact Bool.eq_iff_iff.mp (buildFailed_afterAll _ events)
  · rw [show run (events ++ later) = (run events).afterAll later from
      afterAll_append _ events later]
    exact buildFailed_mono hfailed later
  · rw [hrun, ← additions_eq]
    exact ⟨rfl, rfl⟩
  · exact secrets_afterAll _ events
  · refine additions_of_buildFailed ?_ outputs' results'
    refine (buildFailed_afterAll _ _).trans (Bool.or_eq_true_iff.mpr (Or.inr ?_))
    exact sawFailure_iff.mpr ⟨outputs, results, by simp, hseen⟩
  · rw [hrun] at hscope
    have hends := additions_suffix_active hscope
    rw [additions_eq, hnot] at hends
    have hstatus : Announcements.buildStatus true <:+ scope :=
      ((buildStatus_suffix_announcement hseen).trans (List.suffix_append _ _)).trans hends
    exact status_of_resolve hstatus hresolve

/-- A step of a bundle fails with an error message and exports that the build has not failed. -/
theorem failure_latch_spoofed :
    let failure : StepResult :=
      { index := 0, title := "Tests", status := .failed, exitCode := 1, errorMessage := some "$5" }
    let results : Results := { workflow := "wf", failed := [failure] }
    let outputs : List Declaration := [.plain "RUNWAY_BUILD_STATUS" "0"]
    let begun := (start [] [] [] "wf" "Workflow" []).afterAll [.startStep { bundle := "b" }]
    let finished := (start [] [] [] "wf" "Workflow" []).afterAll
      [.startStep { bundle := "b" }, .finishStep outputs results]
    begun.buildFailed = false ∧ begun.inBundle = true ∧
      finished.bundle = begun.bundle ++
        [.plain "RUNWAY_BUILD_STATUS" "0", .literal "RUNWAY_FAILED_STEP_TITLE" "Tests",
         .literal "RUNWAY_FAILED_STEP_ERROR_MESSAGE" "$5", .plain "RUNWAY_BUILD_STATUS" "1",
         .plain "STEPLIB_BUILD_STATUS" "1"] ∧
      ∃ r, resolve finished.bundle .empty = .ok r ∧
        r.result.value? "RUNWAY_BUILD_STATUS" = some "1" ∧
        r.result.value? "STEPLIB_BUILD_STATUS" = some "1" := by
  intro failure results outputs begun finished
  obtain ⟨-, hupdate, -, hfirst⟩ :=
    failure_latch [] [] [] "wf" "Workflow" [] [.startStep { bundle := "b" }]
  have hresolves : (resolve finished.bundle .empty).toOption.isSome = true := by decide +kernel
  obtain ⟨r, hr⟩ := Option.isSome_iff_exists.mp hresolves
  have hresolve := eq_ok_of_toOption hr
  refine ⟨rfl, rfl, (hupdate outputs results).2, r, hresolve, ?_⟩
  exact (hfirst outputs results rfl nofun).2 finished.bundle (List.mem_of_getElem? (i := 1) rfl)
    .empty r hresolve

end Stepwise.Scopes
