import Mathlib.Data.List.Nodup
import Stepwise.Results.Basic

/-!
# Results are not lost

Results are filed in four lists. Together the lists hold what was recorded, each result once, and
what they say of the run depends on the order of recording only where the results of one step do.

* `Results.all_recordAll`: the lists hold a permutation of the recorded results.
* `Results.shelved_recordAll`: each list holds the results of its outcomes, in the order of
  recording.
* `Results.ordered_recordAll`: **the results of a run in the order of its steps** are the recorded
  results, if each step was recorded after those that stand before it.
* `Results.exitCode_recordAll`: the exit code, told from the outcomes alone.
* `Results.recordAll_partitions`: **the results of a run**, in all that can be read off them.
-/

namespace Stepwise

/-- The outcomes that are filed as failures are those that fail the build. -/
theorem Status.shelf_eq_failed_iff (s : Status) : s.shelf = .failed ↔ s.isFailure = true := by
  cases s <;> decide

namespace Results

/-- **A result is filed once**, and the others stay. -/
theorem all_record (rs : Results) (r : StepResult) : (rs.record r).all.Perm (rs.all ++ [r]) := by
  unfold record all
  cases r.status.shelf <;> simp only [List.append_assoc, List.perm_append_left_iff]
  · exact List.perm_append_comm.trans (by simp)
  · exact List.perm_append_comm.trans (by simp)
  · exact List.perm_append_comm
  · exact .refl _

theorem recordAll_cons (rs : Results) (r : StepResult) (results : List StepResult) :
    rs.recordAll (r :: results) = (rs.record r).recordAll results := rfl

/-- **What is recorded is filed**, and nothing else. -/
theorem all_recordAll (rs : Results) (results : List StepResult) :
    (rs.recordAll results).all.Perm (rs.all ++ results) := by
  induction results generalizing rs with
  | nil => rw [List.append_nil]; exact .refl _
  | cons r results ih =>
    rw [recordAll_cons, List.append_cons]
    exact (ih (rs.record r)).trans ((all_record rs r).append_right results)

theorem length_all (rs : Results) : rs.all.length = rs.count := by
  simp only [all, count, List.length_append]

/-- As many results are counted as were recorded. -/
theorem count_recordAll (workflow : String) (results : List StepResult) :
    (recordAll { workflow } results).count = results.length := by
  rw [← length_all, (all_recordAll _ results).length_eq]
  rfl

/-! ## One list -/

/-- The list of a shelf. -/
def shelved (rs : Results) : Shelf → List StepResult
  | .success => rs.success
  | .failed => rs.failed
  | .failedSkippable => rs.failedSkippable
  | .skipped => rs.skipped

theorem shelved_record (rs : Results) (r : StepResult) (shelf : Shelf) :
    (rs.record r).shelved shelf =
      rs.shelved shelf ++ if r.status.shelf = shelf then [r] else [] := by
  unfold record
  cases h : r.status.shelf <;> cases shelf <;> simp [shelved]

theorem failed_record (rs : Results) (r : StepResult) :
    (rs.record r).failed = rs.failed ++ if r.status.shelf = .failed then [r] else [] :=
  rs.shelved_record r .failed

/-- **Each list holds the results of its outcomes**, in the order of recording. -/
theorem shelved_recordAll (rs : Results) (results : List StepResult) (shelf : Shelf) :
    (rs.recordAll results).shelved shelf =
      rs.shelved shelf ++ results.filter (·.status.shelf = shelf) := by
  induction results generalizing rs with
  | nil => exact (List.append_nil _).symm
  | cons r results ih =>
    rw [recordAll_cons, ih, shelved_record, List.append_assoc, List.filter_cons]
    by_cases h : r.status.shelf = shelf
    · simp [h]
    · simp [h]

/-- The list of a shelf by any test that says which outcomes are filed there. -/
theorem shelved_eq_filter (workflow : String) (results : List StepResult) (shelf : Shelf)
    {p : Status → Bool} (hp : ∀ s : Status, s.shelf = shelf ↔ p s = true) :
    (recordAll { workflow } results).shelved shelf = results.filter fun r => p r.status := by
  have hempty : ({ workflow } : Results).shelved shelf = [] := by cases shelf <;> rfl
  rw [shelved_recordAll, hempty, List.nil_append]
  refine List.filter_congr fun r _ => ?_
  rw [Bool.eq_iff_iff, decide_eq_true_iff, hp]

/-- The list of failures holds the results that fail the build. -/
theorem failed_recordAll (workflow : String) (results : List StepResult) :
    (recordAll { workflow } results).failed = results.filter (·.status.isFailure) :=
  shelved_eq_filter workflow results .failed Status.shelf_eq_failed_iff

/-! ## What a build ends with -/

/-- **The build failed** iff a recorded outcome is a failure. -/
theorem isBuildFailed_recordAll (workflow : String) (results : List StepResult) :
    (recordAll { workflow } results).isBuildFailed = true ↔
      ∃ r ∈ results, r.status.isFailure = true := by
  rw [isBuildFailed, failed_recordAll, Bool.not_eq_true', List.isEmpty_eq_false_iff_exists_mem]
  simp only [List.mem_filter]

/-- An outcome that is a failure is found among the failures iff it was recorded. -/
theorem anyFailedWith_recordAll (workflow : String) (results : List StepResult) (status : Status)
    (h : status.isFailure = true) :
    (recordAll { workflow } results).anyFailedWith status = true ↔
      ∃ r ∈ results, r.status = status := by
  rw [anyFailedWith, failed_recordAll, List.any_eq_true]
  simp only [List.mem_filter, decide_eq_true_iff, and_assoc]
  refine exists_congr fun r => and_congr_right fun _ => and_iff_right_of_imp fun hr => ?_
  rw [hr, h]

/-- **The exit code**, told from the recorded outcomes. -/
theorem exitCode_recordAll (workflow : String) (results : List StepResult) :
    (recordAll { workflow } results).exitCode =
      if ∃ r ∈ results, r.status = .abortedWithNoOutput then 3
      else if ∃ r ∈ results, r.status = .abortedWithCustomTimeout then 2
      else if ∃ r ∈ results, r.status.isFailure = true then 1
      else 0 := by
  have hsilent := anyFailedWith_recordAll workflow results .abortedWithNoOutput rfl
  have hlate := anyFailedWith_recordAll workflow results .abortedWithCustomTimeout rfl
  have hfailed := isBuildFailed_recordAll workflow results
  -- both kinds of abort are failures, so they are only looked for in a build that failed
  have habort : ∀ status : Status, status.isFailure = true →
      (∃ r ∈ results, r.status = status) → ∃ r ∈ results, r.status.isFailure = true :=
    fun status hstatus ⟨r, hr, heq⟩ => ⟨r, hr, heq ▸ hstatus⟩
  unfold exitCode
  simp only [Bool.not_eq_true', ← Bool.not_eq_true, hsilent, hlate, hfailed]
  by_cases h : ∃ r ∈ results, r.status.isFailure = true
  · rw [if_neg (not_not_intro h), if_pos h]
  · rw [if_pos h, if_neg fun hs => h (habort _ rfl hs), if_neg fun hl => h (habort _ rfl hl),
      if_neg h]

/-! ## The order of the steps -/

/-- The results in the order of the steps are those of the lists. -/
theorem ordered_perm (rs : Results) : rs.ordered.Perm rs.all :=
  List.mergeSort_perm _ _

/-- **The order of the steps**: places never go down. -/
theorem pairwise_ordered (rs : Results) : rs.ordered.Pairwise fun a b => a.index ≤ b.index := by
  refine (List.pairwise_mergeSort ?_ ?_ _).imp of_decide_eq_true
  · intro a b c hab hbc
    simp only [decide_eq_true_eq] at hab hbc ⊢
    exact Nat.le_trans hab hbc
  · intro a b
    simpa using Nat.le_total a.index b.index

/-- Results with places of their own have one order in which the places go up. -/
theorem eq_of_perm_of_pairwise {first second : List StepResult} (hperm : first.Perm second)
    (hfirst : first.Pairwise fun a b => a.index ≤ b.index)
    (hsecond : second.Pairwise fun a b => a.index ≤ b.index)
    (hnodup : (second.map (·.index)).Nodup) : first = second :=
  hperm.eq_of_pairwise (fun _ _ ha hb hab hba =>
    List.inj_on_of_nodup_map hnodup (hperm.mem_iff.mp ha) hb (Nat.le_antisymm hab hba))
    hfirst hsecond

/-- **The results of a run.** Each list holds the recorded results of its outcomes in the order of
recording; together they hold what was recorded, and nothing else, and the count is the number of
it. The build failed iff an outcome is a failure. The exit code is that of the gravest outcome:
silence counts before a timeout, and a timeout before any other failure. In the order of the steps
the recorded results have places that never go down. In whatever order the same results are
recorded, the exit code is the same, and so is the order of the steps if no two results have the
same place. -/
theorem recordAll_partitions (workflow : String) (results : List StepResult) :
    let filed := recordAll { workflow } results
    (filed.success = results.filter (·.status = .success) ∧
      filed.failed = results.filter (·.status.isFailure) ∧
      filed.failedSkippable = results.filter (·.status = .failedSkippable) ∧
      filed.skipped = results.filter (fun r => r.status = .skipped ∨ r.status = .skippedWithRunIf) ∧
      (filed.success ++ filed.failed ++ filed.failedSkippable ++ filed.skipped).Perm results ∧
      filed.count = results.length) ∧
    (filed.isBuildFailed = true ↔ ∃ r ∈ results, r.status.isFailure = true) ∧
    (filed.exitCode =
      if ∃ r ∈ results, r.status = .abortedWithNoOutput then 3
      else if ∃ r ∈ results, r.status = .abortedWithCustomTimeout then 2
      else if ∃ r ∈ results, r.status.isFailure = true then 1
      else 0) ∧
    (filed.ordered.Perm results ∧ filed.ordered.Pairwise fun a b => a.index ≤ b.index) ∧
    ∀ other : List StepResult, other.Perm results →
      (recordAll { workflow } other).exitCode = filed.exitCode ∧
      ((results.map (·.index)).Nodup → (recordAll { workflow } other).ordered = filed.ordered) := by
  have hordered : ∀ results, (recordAll { workflow } results).ordered.Perm results := fun results =>
    (ordered_perm _).trans (all_recordAll { workflow } results)
  have hsuccess : ∀ s : Status, s.shelf = .success ↔ decide (s = .success) = true := by
    intro s; cases s <;> decide
  have hskippable : ∀ s : Status, s.shelf = .failedSkippable ↔
      decide (s = .failedSkippable) = true := by
    intro s; cases s <;> decide
  have hskipped : ∀ s : Status,
      s.shelf = .skipped ↔ decide (s = .skipped ∨ s = .skippedWithRunIf) = true := by
    intro s; cases s <;> decide
  refine ⟨⟨shelved_eq_filter workflow results _ hsuccess, failed_recordAll workflow results,
      shelved_eq_filter workflow results _ hskippable,
        shelved_eq_filter workflow results _ hskipped,
      all_recordAll { workflow } results, count_recordAll workflow results⟩,
    isBuildFailed_recordAll workflow results, exitCode_recordAll workflow results,
    ⟨hordered results, pairwise_ordered _⟩, fun other hperm => ⟨?_, fun hnodup => ?_⟩⟩
  · rw [exitCode_recordAll, exitCode_recordAll]
    simp only [hperm.mem_iff]
  · have hindices : ((recordAll { workflow } results).ordered.map (·.index)).Nodup :=
      ((hordered results).map _).nodup_iff.mpr hnodup
    exact eq_of_perm_of_pairwise ((hordered other).trans (hperm.trans (hordered results).symm))
      (pairwise_ordered _) (pairwise_ordered _) hindices

/-- A timeout, a success and a silence, recorded in the order of the steps and the other way
round. -/
theorem recordAll_partitions_reversed :
    let late : StepResult :=
      { index := 0, title := "a", status := .abortedWithCustomTimeout, exitCode := -1 }
    let passed : StepResult := { index := 1, title := "b", status := .success, exitCode := 0 }
    let silent : StepResult :=
      { index := 2, title := "c", status := .abortedWithNoOutput, exitCode := -1 }
    let filed := recordAll { workflow := "wf" } [late, passed, silent]
    filed.failed = [late, silent] ∧ filed.exitCode = 3 ∧
      (recordAll { workflow := "wf" } [silent, passed, late]).failed = [silent, late] ∧
      (recordAll { workflow := "wf" } [silent, passed, late]).exitCode = filed.exitCode ∧
      (recordAll { workflow := "wf" } [silent, passed, late]).ordered = filed.ordered := by
  intro late passed silent filed
  have hperm : [silent, passed, late].Perm [late, passed, silent] := by decide
  obtain ⟨hexit, hordered⟩ :=
    (recordAll_partitions "wf" [late, passed, silent]).2.2.2.2 [silent, passed, late] hperm
  exact ⟨by decide, by decide, by decide, hexit, hordered (by decide)⟩

end Results

end Stepwise
