/-!
# Environments

An environment holds variables, at most one of a name. They are kept in the order of their names,
which is the order of the bytes of their UTF-8 form, so two environments with the same variables
are equal.

* `get?_insert`, `get?_erase`: what a change does to a look-up.
* `mem_sensitiveValues_iff`: the sensitive values are those of the sensitive variables.
* `Environment.ext_get?`: environments with the same look-ups are the same.
-/

namespace Stepwise

/-- An environment variable. -/
structure Variable where
  key : String
  value : String
  /-- The value must not be shown. -/
  isSensitive : Bool := false
  deriving DecidableEq, Inhabited

/-- The order of an environment's variables: names go up. -/
def Variable.Before (v w : Variable) : Prop := v.key < w.key

/-- Variables by name. -/
structure Environment where
  vars : List Variable
  sorted : vars.Pairwise Variable.Before := by simp
  deriving DecidableEq

namespace Environment

/-- No variables. -/
def empty : Environment := ⟨[], .nil⟩

instance : Inhabited Environment := ⟨empty⟩

/-- The variable of a name. -/
def get? (env : Environment) (key : String) : Option Variable :=
  env.vars.find? (·.key = key)

/-- The value of a variable. -/
def value? (env : Environment) (key : String) : Option String :=
  (env.get? key).map (·.value)

/-- Whether there is a variable of a name. -/
def contains (env : Environment) (key : String) : Bool :=
  (env.get? key).isSome

/-- Put `v` in its place among sorted variables, instead of one of the same name. -/
def place (v : Variable) : List Variable → List Variable
  | [] => [v]
  | w :: ws =>
    if v.key < w.key then v :: w :: ws
    else if v.key = w.key then v :: ws
    else w :: place v ws

theorem mem_place {v w : Variable} {ws : List Variable} (h : w ∈ place v ws) : w = v ∨ w ∈ ws := by
  induction ws with
  | nil => simpa [place] using h
  | cons u us ih =>
    unfold place at h
    split at h
    · simpa using h
    · split at h
      · rcases List.mem_cons.1 h with h | h
        · exact .inl h
        · exact .inr (List.mem_cons_of_mem _ h)
      · rcases List.mem_cons.1 h with h | h
        · exact .inr (h ▸ List.mem_cons_self)
        · exact (ih h).imp_right (List.mem_cons_of_mem _)

theorem lt_of_not_lt_of_ne {a b : String} (h : ¬ a < b) (hne : a ≠ b) : b < a :=
  Decidable.byContradiction fun h' =>
    hne (String.le_antisymm (String.not_lt.1 h') (String.not_lt.1 h))

theorem sorted_place {v : Variable} {ws : List Variable} (h : ws.Pairwise Variable.Before) :
    (place v ws).Pairwise Variable.Before := by
  induction ws with
  | nil => simp [place]
  | cons u us ih =>
    have ⟨hu, hus⟩ := List.pairwise_cons.1 h
    unfold place
    split
    next hlt =>
      refine List.pairwise_cons.2 ⟨fun w hw => ?_, h⟩
      rcases List.mem_cons.1 hw with rfl | hw
      · exact hlt
      · exact String.lt_trans hlt (hu w hw)
    next hlt =>
      split
      next heq =>
        refine List.pairwise_cons.2 ⟨fun w hw => ?_, hus⟩
        show v.key < w.key
        exact heq ▸ hu w hw
      next hne =>
        refine List.pairwise_cons.2 ⟨fun w hw => ?_, ih hus⟩
        rcases mem_place hw with rfl | hw
        · exact lt_of_not_lt_of_ne hlt hne
        · exact hu w hw

/-- The environment with `v` instead of any variable of its name. -/
def insert (env : Environment) (v : Variable) : Environment :=
  ⟨place v env.vars, sorted_place env.sorted⟩

/-- The environment without the variable of a name. -/
def erase (env : Environment) (key : String) : Environment :=
  ⟨env.vars.filter (·.key ≠ key), env.sorted.filter _⟩

/-- The environment of a list of variables; the last of several of one name wins. -/
def ofList (vars : List Variable) : Environment :=
  vars.foldl insert empty

/-- An environment of variables that are not sensitive. -/
def ofPairs (pairs : List (String × String)) : Environment :=
  ofList (pairs.map fun p => ⟨p.1, p.2, false⟩)

/-- Names and values in order, as a process gets them. -/
def toPairs (env : Environment) : List (String × String) :=
  env.vars.map fun v => (v.key, v.value)

/-- The values of the sensitive variables, in the order of their names. -/
def sensitiveValues (env : Environment) : List String :=
  (env.vars.filter (·.isSensitive)).map (·.value)

theorem mem_sensitiveValues_iff {env : Environment} {value : String} :
    value ∈ env.sensitiveValues ↔ ∃ v ∈ env.vars, v.isSensitive = true ∧ v.value = value := by
  simp only [sensitiveValues, List.mem_map, List.mem_filter, and_assoc]

/-! ## Look-ups -/

theorem find?_place (v : Variable) {ws : List Variable} (key : String)
    (h : ws.Pairwise Variable.Before) :
    (place v ws).find? (·.key = key) = if v.key = key then some v else ws.find? (·.key = key) := by
  induction ws with
  | nil => simp [place, List.find?_cons]; split <;> simp_all
  | cons u us ih =>
    have ⟨hu, hus⟩ := List.pairwise_cons.1 h
    unfold place
    split
    next => rw [List.find?_cons]; by_cases hk : v.key = key <;> simp [hk]
    next hlt =>
      split
      next heq =>
        by_cases hk : v.key = key
        · simp [hk]
        · simp [hk, heq ▸ hk]
      next hne =>
        rw [List.find?_cons, ih hus, List.find?_cons]
        by_cases hk : u.key = key
        · have : v.key ≠ key := fun hv => hne (hv.trans hk.symm)
          simp [hk, this]
        · simp [hk]

@[simp]
theorem get?_empty (key : String) : empty.get? key = none := rfl

@[simp]
theorem get?_insert (env : Environment) (v : Variable) (key : String) :
    (env.insert v).get? key = if v.key = key then some v else env.get? key :=
  find?_place v key env.sorted

@[simp]
theorem get?_erase (env : Environment) (key k : String) :
    (env.erase key).get? k = if key = k then none else env.get? k := by
  unfold get? erase
  rw [List.find?_filter]
  split
  next h => subst h; simp
  next h =>
    congr 1
    funext w
    by_cases hw : w.key = k
    · simpa [hw] using fun h' => h h'.symm
    · simp [hw]

/-- A variable is found under its own name. -/
theorem key_of_get? {env : Environment} {key : String} {v : Variable} (h : env.get? key = some v) :
    v.key = key := by
  unfold get? at h
  simpa using List.find?_some h

theorem mem_vars_iff {env : Environment} {v : Variable} :
    v ∈ env.vars ↔ env.get? v.key = some v := by
  obtain ⟨vars, sorted⟩ := env
  unfold get?
  induction vars with
  | nil => simp
  | cons u us ih =>
    have ⟨hu, hus⟩ := List.pairwise_cons.1 sorted
    rw [List.find?_cons]
    by_cases hk : u.key = v.key
    · have hnot : v ∉ us := fun hv => by
        have : u.key < v.key := hu v hv
        exact String.lt_irrefl _ (hk ▸ this)
      simp [hk, hnot, eq_comm]
    · have hne : v ≠ u := fun h => hk (h ▸ rfl)
      simpa [hk, hne] using ih hus

theorem eq_of_mem_iff : ∀ {vs ws : List Variable}, vs.Pairwise Variable.Before →
    ws.Pairwise Variable.Before → (∀ v, v ∈ vs ↔ v ∈ ws) → vs = ws
  | [], [], _, _, _ => rfl
  | [], w :: _, _, _, h => absurd ((h w).2 List.mem_cons_self) List.not_mem_nil
  | v :: _, [], _, _, h => absurd ((h v).1 List.mem_cons_self) List.not_mem_nil
  | v :: vs, w :: ws, hv, hw, h => by
    have ⟨hv', hvs⟩ := List.pairwise_cons.1 hv
    have ⟨hw', hws⟩ := List.pairwise_cons.1 hw
    have hvw : v = w := by
      rcases List.mem_cons.1 ((h v).1 List.mem_cons_self) with h1 | h1
      · exact h1
      · rcases List.mem_cons.1 ((h w).2 List.mem_cons_self) with h2 | h2
        · exact h2.symm
        · exact absurd (hw' v h1) (String.lt_asymm (hv' w h2))
    subst hvw
    congr 1
    refine eq_of_mem_iff hvs hws fun u => ⟨fun hu => ?_, fun hu => ?_⟩
    · rcases List.mem_cons.1 ((h u).1 (List.mem_cons_of_mem _ hu)) with rfl | h'
      · exact absurd (hv' u hu) (String.lt_irrefl _)
      · exact h'
    · rcases List.mem_cons.1 ((h u).2 (List.mem_cons_of_mem _ hu)) with rfl | h'
      · exact absurd (hw' u hu) (String.lt_irrefl _)
      · exact h'

/-- Environments with the same look-ups are the same. -/
theorem ext_get? {e f : Environment} (h : ∀ key, e.get? key = f.get? key) : e = f := by
  have hv : e.vars = f.vars :=
    eq_of_mem_iff e.sorted f.sorted fun v => by rw [mem_vars_iff, mem_vars_iff, h]
  obtain ⟨_, _⟩ := e
  obtain ⟨_, _⟩ := f
  cases hv
  rfl

end Environment

end Stepwise
