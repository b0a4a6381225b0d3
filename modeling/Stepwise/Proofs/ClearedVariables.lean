import Stepwise.ClearedVariables

/-!
# Restored environments

An environment is restored variable by variable. Each variable keeps its name, so in the end every
variable of the environment has its true value, and there are no others.

* `ClearedVariables.get?_restore`: **what a variable is in a restored environment**.
  `vars_restore`: its variables, one for each.
* `ClearedVariables.valueFor_agrees`: **the true value of a variable is its value in the restored
  environment**, which differs from the environment only in variables that were cleared.
-/

namespace Stepwise

namespace ClearedVariables

variable {cleared : ClearedVariables}

@[simp]
theorem restoreVariable_key (cleared : ClearedVariables) (v : Variable) :
    (cleared.restoreVariable v).key = v.key := by
  unfold restoreVariable
  split <;> rfl

/-- Variables with names of their own are restored one after another; the others stay. -/
theorem get?_foldl_restoreVariable {vars : List Variable} (h : vars.Pairwise Variable.Before)
    (env : Environment) (key : String) :
    (vars.foldl (fun env v => env.insert (cleared.restoreVariable v)) env).get? key =
      ((vars.find? (·.key = key)).map cleared.restoreVariable).or (env.get? key) := by
  induction vars generalizing env with
  | nil => rfl
  | cons v vars ih =>
    obtain ⟨hfirst, hrest⟩ := List.pairwise_cons.mp h
    rw [List.foldl_cons, ih hrest, Environment.get?_insert, restoreVariable_key, List.find?_cons]
    by_cases hv : v.key = key
    · -- no later variable has the name of this one
      have hnone : vars.find? (·.key = key) = none := by
        rw [List.find?_eq_none]
        intro w hw hk
        have hlt : v.key < w.key := hfirst w hw
        rw [hv, of_decide_eq_true hk] at hlt
        exact String.lt_irrefl _ hlt
      simp [hv, hnone]
    · simp [hv]

/-- **A variable of a restored environment** is the restored variable of the environment. -/
theorem get?_restore (cleared : ClearedVariables) (runtime : Environment) (key : String) :
    (cleared.restore runtime).get? key = (runtime.get? key).map cleared.restoreVariable := by
  unfold restore
  rw [get?_foldl_restoreVariable runtime.sorted]
  show ((runtime.get? key).map _).or (runtime.get? key) = _
  cases runtime.get? key <;> rfl

/-- **The variables of a restored environment** are the restored variables, in the same order. -/
theorem vars_restore (cleared : ClearedVariables) (runtime : Environment) :
    (cleared.restore runtime).vars = runtime.vars.map cleared.restoreVariable := by
  have hsorted : (runtime.vars.map cleared.restoreVariable).Pairwise Variable.Before := by
    refine List.pairwise_map.mpr (runtime.sorted.imp fun {v w} h => ?_)
    rwa [Variable.Before, restoreVariable_key, restoreVariable_key]
  refine Environment.eq_of_mem_iff (cleared.restore runtime).sorted hsorted fun w => ?_
  rw [Environment.mem_vars_iff, get?_restore, Option.map_eq_some_iff, List.mem_map]
  constructor
  · rintro ⟨v, hv, rfl⟩
    rw [restoreVariable_key] at hv
    exact ⟨v, Environment.mem_vars_iff.mpr (Environment.key_of_get? hv ▸ hv), rfl⟩
  · rintro ⟨v, hv, rfl⟩
    exact ⟨v, by rwa [restoreVariable_key, ← Environment.mem_vars_iff], rfl⟩

/-- A variable is changed only if it was empty and a value of it was kept. -/
theorem restoreVariable_cases (cleared : ClearedVariables) (v : Variable) :
    cleared.restoreVariable v = v ∨ ∃ original, v.value = "" ∧ cleared.get? v.key = some original ∧
      cleared.restoreVariable v = { v with value := original } := by
  unfold restoreVariable
  by_cases hempty : v.value = ""
  · rw [if_pos hempty]
    cases cleared.get? v.key with
    | none =>
      refine Or.inl ?_
      rw [Option.getD_none, ← hempty]
    | some original => exact Or.inr ⟨original, hempty, rfl, rfl⟩
  · exact Or.inl (if_neg hempty)

theorem restoreVariable_isSensitive (cleared : ClearedVariables) (v : Variable) :
    (cleared.restoreVariable v).isSensitive = v.isSensitive := by
  unfold restoreVariable
  split <;> rfl

/-- What was restored stays as it is, also if its kept value is empty. -/
theorem restoreVariable_restoreVariable (cleared : ClearedVariables) (v : Variable) :
    cleared.restoreVariable (cleared.restoreVariable v) = cleared.restoreVariable v := by
  obtain h | ⟨original, -, hkept, h⟩ := restoreVariable_cases cleared v
  · rw [h, h]
  · rw [h]
    unfold restoreVariable
    split <;> simp_all

/-- **The true value of a variable is its value in the restored environment**, or the empty text if
there is no such variable. The restored environment has the same variables with the same
sensitivity. An empty variable of which the file has a value gets the last one that it has; no other
variable is changed. Restoring once more changes nothing. -/
theorem valueFor_agrees (cleared : ClearedVariables) (runtime : Environment) :
    (∀ key, cleared.valueFor key runtime = ((cleared.restore runtime).value? key).getD "") ∧
    (cleared.restore runtime).vars.map (fun v => (v.key, v.isSensitive)) =
      runtime.vars.map (fun v => (v.key, v.isSensitive)) ∧
    (∀ key, (cleared.restore runtime).get? key = runtime.get? key ∨
      ∃ v original, runtime.get? key = some v ∧ v.value = "" ∧ cleared.get? key = some original ∧
        (cleared.restore runtime).get? key = some { v with value := original }) ∧
    (∀ key v original, runtime.get? key = some v → v.value = "" →
      cleared.values.reverse.lookup key = some original →
      (cleared.restore runtime).get? key = some { v with value := original } ∧
        cleared.valueFor key runtime = original) ∧
    cleared.restore (cleared.restore runtime) = cleared.restore runtime := by
  have hvalueFor : ∀ key,
      cleared.valueFor key runtime = ((cleared.restore runtime).value? key).getD "" := by
    intro key
    unfold valueFor Environment.value?
    rw [get?_restore]
    cases hv : runtime.get? key with
    | none => rfl
    | some v =>
      obtain rfl := Environment.key_of_get? hv
      simp only [Option.map_some, Option.getD_some, restoreVariable]
      split <;> rfl
  refine ⟨hvalueFor, ?_, fun key => ?_, fun key v original hv hempty hkept => ?_, ?_⟩
  · rw [vars_restore, List.map_map]
    refine List.map_congr_left fun v _ => ?_
    rw [Function.comp_apply, restoreVariable_key, restoreVariable_isSensitive]
  · rw [get?_restore]
    cases hv : runtime.get? key with
    | none => exact Or.inl rfl
    | some v =>
      obtain rfl := Environment.key_of_get? hv
      obtain h | ⟨original, hempty, hkept, h⟩ := restoreVariable_cases cleared v
      · exact Or.inl (congrArg some h)
      · exact Or.inr ⟨v, original, rfl, hempty, hkept, congrArg some h⟩
  · obtain rfl := Environment.key_of_get? hv
    have hrestored : (cleared.restore runtime).get? v.key = some { v with value := original } := by
      rw [get?_restore, hv, Option.map_some, restoreVariable, if_pos hempty, get?, hkept,
        Option.getD_some]
    refine ⟨hrestored, ?_⟩
    rw [hvalueFor, Environment.value?, hrestored, Option.map_some, Option.getD_some]
  · refine Environment.ext_get? fun key => ?_
    rw [get?_restore, get?_restore, Option.map_map]
    refine congrArg (Option.map · _) (funext fun v => ?_)
    exact restoreVariable_restoreVariable cleared v

end ClearedVariables

end Stepwise
