import Stepwise.Proofs.ClearedVariables
import Stepwise.Proofs.Scopes.Failure
import Stepwise.Proofs.Steps.Visits
import Stepwise.Proofs.Text.Utf8

/-!
# The build as a step sees it

Four variables tell a step how the build stands: two with its status, and after a failure two more
with the title and the reason of the first step that failed. Where nothing else has their names,
every scope of a run gives them the values that the results of the run have at that moment.

* `Declaration.Spares`: a declaration names none of some variables. `Resolution.get?_of_spares`:
  such declarations leave these variables alone.
* `Environment.Tells`: an environment tells of the first failure, or that there was none.
* `Scopes.Declares`: the scopes of a run do, whatever they are resolved on.
* `Scopes.Declares.enter`, `.update`, `.visits`: **a step, an update and a whole run** keep them so.
* `Runner.exists_runFrom_take`: a run that ends early has run the steps before its end.
* `Runner.run_tells`: **every step of a run sees whether a step before it failed**, and the first
  one that did.
-/

namespace Stepwise

/-- The variables that tell a step how the build stands. -/
def Announcements.statusKeys : List String :=
  [buildStatusKey, stepLibraryStatusKey, failedTitleKey, failedMessageKey]

open Announcements

/-! ## Declarations of other variables -/

/-- The declaration names none of these variables. -/
def Declaration.Spares (keys : List String) (d : Declaration) : Prop :=
  ∀ key text, d.keyValue = .ok (key, text) → key ∉ keys

theorem Declaration.keyValue_plain {key : String} (hne : key ≠ "") (hopts : key ≠ optionsKey)
    (value : String) : (plain key value).keyValue = .ok (key, value) :=
  keyValue_eq_ok.mpr ⟨(.text key, .text value), none, ⟨rfl, hne, hopts, rfl⟩, nofun, .refl _⟩

theorem Declaration.spares_of_keyValue {keys : List String} {d : Declaration} {key text : String}
    (h : d.keyValue = .ok (key, text)) (hkey : key ∉ keys) : d.Spares keys := by
  intro k t hk
  rw [h] at hk
  obtain ⟨rfl, -⟩ := Prod.mk.inj (Except.ok.inj hk)
  exact hkey

theorem Declaration.spares_literal {keys : List String} {key : String} (hne : key ≠ "")
    (hopts : key ≠ optionsKey) (hkey : key ∉ keys) (value : String) :
    (literal key value).Spares keys :=
  spares_of_keyValue ((keyValue_literal hne value).trans (if_neg hopts)) hkey

theorem Announcements.spares_triggeredWorkflow (id title : String) :
    ∀ d ∈ triggeredWorkflow id title, d.Spares statusKeys := by
  intro d hd
  rcases List.mem_pair.mp hd with rfl | rfl
  · exact Declaration.spares_of_keyValue (Declaration.keyValue_plain (by decide) (by decide) id)
      (by decide)
  · exact Declaration.spares_of_keyValue (Declaration.keyValue_plain (by decide) (by decide) title)
      (by decide)

/-- **Declarations of other variables** leave a variable alone. -/
theorem Resolution.get?_of_spares {keys : List String} {key : String} (hkey : key ∈ keys) :
    ∀ {ds : List Declaration} {done : Nat} {env added : Environment} {r : Resolution},
    (∀ d ∈ ds, d.Spares keys) → continueFrom done env added ds = .ok r →
    r.result.get? key = env.get? key
  | [], _, _, _, _, _, h => by
    rw [← Except.ok.inj h]
  | d :: ds, _, env, _, _, hspares, h => by
    obtain ⟨hd, hds⟩ := List.forall_mem_cons.mp hspares
    obtain ⟨c, rest, hc, hrest, rfl⟩ := continueFrom_cons.mp h
    obtain ⟨text, htext⟩ := Declaration.keyValue_of_command hc
    have hother : c.changes key = false := by
      have hne : c.key ≠ key := fun heq => hd _ _ htext (heq ▸ hkey)
      cases c with
      | set v => exact decide_eq_false hne
      | unset k => exact decide_eq_false hne
      | skip k => rfl
    rw [get?_of_spares hkey hds hrest, Command.get?_apply, hother]
    rfl

/-! ## What an environment tells -/

/-- The environment tells that `first` was the first step that failed, or that none has failed. -/
structure Environment.Tells (env : Environment) (first : Option StepResult) : Prop where
  status : env.value? buildStatusKey = some (statusText first.isSome)
  mirror : env.value? stepLibraryStatusKey = some (statusText first.isSome)
  title : env.value? failedTitleKey = first.map (·.title)
  message : env.value? failedMessageKey = first.map (·.failureReason)

theorem Environment.value?_congr {e f : Environment} {key : String} (h : e.get? key = f.get? key) :
    e.value? key = f.value? key := by
  unfold value?
  rw [h]

/-- Environments in which the four variables are the same tell the same. -/
theorem Environment.Tells.congr {e f : Environment} {first : Option StepResult} (h : e.Tells first)
    (hsame : ∀ key ∈ statusKeys, f.get? key = e.get? key) : f.Tells first where
  status := (value?_congr (hsame _ (by decide))).trans h.status
  mirror := (value?_congr (hsame _ (by decide))).trans h.mirror
  title := (value?_congr (hsame _ (by decide))).trans h.title
  message := (value?_congr (hsame _ (by decide))).trans h.message

variable {done : Nat} {env added : Environment} {r : Resolution} {first : Option StepResult}

/-- The status of the build, resolved last, is in both its variables; the others are as before. -/
theorem get?_of_buildStatus {failed : Bool}
    (h : Resolution.continueFrom done env added (buildStatus failed) = .ok r) :
    r.result.value? buildStatusKey = some (statusText failed) ∧
      r.result.value? stepLibraryStatusKey = some (statusText failed) ∧
      r.result.get? failedTitleKey = env.get? failedTitleKey ∧
      r.result.get? failedMessageKey = env.get? failedMessageKey := by
  rw [Scopes.continueFrom_buildStatus, Except.ok.injEq] at h
  subst h
  simp only [Environment.value?, Environment.get?_insert]
  refine ⟨by simp [buildStatusKey, stepLibraryStatusKey], by simp, ?_, ?_⟩
  · rw [if_neg (by decide), if_neg (by decide)]
  · rw [if_neg (by decide), if_neg (by decide)]

/-- The status of a build that has not failed is all that is told of it. -/
theorem tells_of_passing (hempty : ∀ key ∈ statusKeys, env.get? key = none)
    (h : Resolution.continueFrom done env added (buildStatus false) = .ok r) :
    r.result.Tells none := by
  obtain ⟨hstatus, hmirror, htitle, hmessage⟩ := get?_of_buildStatus h
  refine ⟨hstatus, hmirror, ?_, ?_⟩
  · rw [Environment.value?, htitle, hempty _ (by decide)]
    rfl
  · rw [Environment.value?, hmessage, hempty _ (by decide)]
    rfl

/-- The failed step, resolved last, is in its two variables as it is. -/
theorem get?_of_failedStep {failure : StepResult}
    (h : Resolution.continueFrom done env added (failedStep failure) = .ok r) :
    r.result.get? failedTitleKey = some ⟨failedTitleKey, failure.title, false⟩ ∧
      r.result.get? failedMessageKey = some ⟨failedMessageKey, failure.failureReason, false⟩ := by
  have hliteral : failedStep failure =
      [(failedTitleKey, failure.title), (failedMessageKey, failure.failureReason)].map
        fun p => Declaration.literal p.1 p.2 := rfl
  rw [hliteral, Exports.continueFrom_literals _ _ _ (by simp [failedTitleKey, failedMessageKey])
    (by simp [failedTitleKey, failedMessageKey, Declaration.optionsKey])] at h
  obtain rfl := Except.ok.inj h
  have hne : failedMessageKey ≠ failedTitleKey := by decide
  constructor
  · refine (Environment.get?_insert _ _ _).trans ((if_neg hne).trans ?_)
    exact (Environment.get?_insert env _ _).trans (if_pos rfl)
  · exact (Environment.get?_insert _ _ _).trans (if_pos rfl)

/-- **The announcement of a failure** tells of it as it is, without looking for references. -/
theorem tells_of_announcement {failure : StepResult}
    (h : Resolution.continueFrom done env added (Scopes.announcement [failure]) = .ok r) :
    r.result.Tells (some failure) := by
  have hsplit : Scopes.announcement [failure] = failedStep failure ++ buildStatus true := rfl
  rw [hsplit] at h
  obtain ⟨named, status, hnamed, hstatus, rfl⟩ := Resolution.exists_of_continueFrom_append h
  obtain ⟨htitle, hmessage⟩ := get?_of_failedStep hnamed
  obtain ⟨hvalue, hmirror, htitle', hmessage'⟩ := get?_of_buildStatus hstatus
  refine ⟨hvalue, hmirror, ?_, ?_⟩
  · rw [Environment.value?, htitle', htitle]
    rfl
  · rw [Environment.value?, hmessage', hmessage]
    rfl

/-! ## What a list of declarations tells -/

/-- Where a list resolves on variables of other names, it tells of the first failure. -/
def DeclaresFailure (first : Option StepResult) (ds : List Declaration) : Prop :=
  ∀ source r, (∀ key ∈ statusKeys, source.get? key = none) → resolve ds source = .ok r →
    r.result.Tells first

namespace DeclaresFailure

variable {xs ys : List Declaration}

/-- What is told is not changed by declarations of other variables that come later. -/
theorem append (h : DeclaresFailure first xs) (hspares : ∀ d ∈ ys, d.Spares statusKeys) :
    DeclaresFailure first (xs ++ ys) := by
  intro source r hsource hr
  obtain ⟨before, after, hbefore, hafter, rfl⟩ := Resolution.exists_of_continueFrom_append hr
  have hsame : ∀ key ∈ statusKeys, after.result.get? key = before.result.get? key := fun key hkey =>
    Resolution.get?_of_spares hkey hspares hafter
  exact (h source before hsource hbefore).congr hsame

/-- At the start of a run nothing has failed. -/
theorem passing (hspares : ∀ d ∈ xs, d.Spares statusKeys) :
    DeclaresFailure none (xs ++ buildStatus false) := by
  intro source r hsource hr
  obtain ⟨before, after, hbefore, hafter, rfl⟩ := Resolution.exists_of_continueFrom_append hr
  have hempty : ∀ key ∈ statusKeys, before.result.get? key = none := fun key hkey => by
    rw [Resolution.get?_of_spares hkey hspares hbefore, hsource key hkey]
  have htells : after.result.Tells none := tells_of_passing hempty hafter
  exact htells

/-- An announcement counts, whatever was told before it. -/
theorem announced (xs : List Declaration) (failure : StepResult) :
    DeclaresFailure (some failure) (xs ++ Scopes.announcement [failure]) := by
  intro source r hsource hr
  obtain ⟨before, after, -, hafter, rfl⟩ := Resolution.exists_of_continueFrom_append hr
  have htells : after.result.Tells (some failure) := tells_of_announcement hafter
  exact htells

end DeclaresFailure

/-! ## What the scopes of a run tell -/

namespace Scopes

/-- Every scope that a step can see tells of the first failure, and it is known whether there was
one. -/
structure Declares (first : Option StepResult) (s : Scopes) : Prop where
  workflow : DeclaresFailure first s.workflow
  bundle : s.inBundle = true → DeclaresFailure first s.bundle
  buildFailed : s.buildFailed = first.isSome

namespace Declares

variable {s : Scopes}

theorem visible (h : Declares first s) : DeclaresFailure first s.visible := by
  unfold Scopes.visible
  split
  · rename_i hin
    exact h.bundle hin
  · exact h.workflow

/-- **The start of a step** changes nothing of what is told: a bundle begins with the workflow
scope. -/
theorem enter (h : Declares first s) {plan : Plan}
    (hplan : ∀ d ∈ plan.bundleDeclarations, d.Spares statusKeys) :
    Declares first (s.enter plan) := by
  unfold Scopes.enter
  split
  · exact h
  · refine ⟨h.workflow, fun hin => ?_, h.buildFailed⟩
    have hbundle : plan.inBundle = true := hin
    simp only [hbundle, if_true]
    exact h.workflow.append hplan

/-- An update adds to a scope what makes it tell of the first of the results. -/
theorem additions {results : Results} (h : Declares results.failed.head? s)
    {outputs : List Declaration}
    (houtputs : ∀ d ∈ outputs, d.Spares statusKeys) (result : StepResult) {scope : List Declaration}
    (hscope : DeclaresFailure results.failed.head? scope) :
    DeclaresFailure (results.record result).failed.head?
      (scope ++ s.additions outputs (results.record result)) := by
  rw [additions_eq, h.buildFailed, Results.failed_record]
  cases hbefore : results.failed with
  | cons failure others =>
    -- the first failure was announced before
    rw [hbefore] at hscope
    simpa using hscope.append houtputs
  | nil =>
    rw [hbefore] at hscope
    by_cases hresult : result.status.shelf = .failed
    · rw [if_pos hresult, ← List.append_assoc]
      exact .announced (scope ++ outputs) result
    · rw [if_neg hresult]
      simpa [announcement] using hscope.append houtputs

/-- **An update** makes the scopes tell of the first failure among the results with the new one. -/
theorem update {results : Results} (h : Declares results.failed.head? s)
    {outputs : List Declaration}
    (houtputs : ∀ d ∈ outputs, d.Spares statusKeys) (result : StepResult) :
    Declares (results.record result).failed.head? (s.update outputs (results.record result)) where
  workflow := h.additions houtputs result h.workflow
  bundle := fun hin => by
    have hs : s.inBundle = true := hin
    simp only [Scopes.update, hs, if_true]
    exact h.additions houtputs result (h.bundle hs)
  buildFailed := by
    show (s.buildFailed || (results.record result).isBuildFailed) = _
    rw [h.buildFailed, Results.isBuildFailed, Results.failed_record]
    cases results.failed with
    | cons failure others => simp
    | nil => by_cases hresult : result.status.shelf = .failed <;> simp [hresult]

/-- **Visits** make the scopes tell of the first failure among the results of the run. -/
theorem visits {σ : Type} {visits : List (Visit σ)} {results : Results}
    (hplans : ∀ v ∈ visits, ∀ d ∈ v.step.plan.bundleDeclarations, d.Spares statusKeys)
    (houtputs : ∀ v ∈ visits, ∀ d ∈ v.run.outputs, d.Spares statusKeys)
    (h : Declares results.failed.head? s) :
    Declares (results.recordAll (visits.map (·.run.result))).failed.head?
      (s.afterAll (Visit.events results visits)) := by
  induction visits generalizing results s with
  | nil => exact h
  | cons v visits ih =>
    obtain ⟨hplan, hplans⟩ := List.forall_mem_cons.mp hplans
    obtain ⟨houtput, houtputs⟩ := List.forall_mem_cons.mp houtputs
    exact ih hplans houtputs ((h.enter hplan).update houtput v.run.result)

/-- At the start of a run the scopes tell that nothing has failed. -/
theorem start {runtime secrets app : List Declaration} {id title : String}
    {workflow : List Declaration}
    (hgiven : ∀ d ∈ runtime ++ secrets ++ app ++ workflow, d.Spares statusKeys) :
    Declares none (Scopes.start runtime secrets app id title workflow) where
  workflow := by
    have hearlier : ∀ d ∈ runtime ++ secrets ++ app, d.Spares statusKeys := fun d hd =>
      hgiven d (List.mem_append_left _ hd)
    have hlater : ∀ d ∈ workflow, d.Spares statusKeys := fun d hd =>
      hgiven d (List.mem_append_right _ hd)
    exact ((DeclaresFailure.passing hearlier).append (spares_triggeredWorkflow id title)).append
      hlater
  bundle := fun hin => absurd hin (by simp [Scopes.start, inBundle])
  buildFailed := rfl

end Declares

end Scopes

/-! ## One visit -/

section Visits

variable {σ : Type} {r : Runner σ} {host : Host σ} {secrets : SecretSet} {index : Nat}
  {scopes : Scopes} {v : Visit σ}

/-- The declarations of a step resolve, unless its result says that they do not. -/
theorem Visit.Went.exists_resolution (h : v.Went r host secrets index scopes)
    (hprepared : v.run.result.status ≠ .preparationFailed) :
    ∃ resolution, v.resolution r host scopes = .ok resolution := by
  cases h with
  | notPrepared _ hresult => exact absurd (congrArg StepResult.status hresult) hprepared
  | notStarted hresolve => exact ⟨_, hresolve⟩
  | ended hresolve => exact ⟨_, hresolve⟩

/-- What a step exports is in its file. -/
theorem Visit.Went.mem_outputs (h : v.Went r host secrets index scopes) {d : Declaration}
    (hd : d ∈ v.run.outputs) : ∃ content, (host.read v.path v.run.host).text = .ok content ∧
      ∃ p ∈ Exports.pairs content, .literal p.1 p.2 = d := by
  have hread : ∀ {outputs : List Declaration}, Runner.Exported host v.path v.run.host outputs →
      d ∈ outputs → ∃ content, (host.read v.path v.run.host).text = .ok content ∧
        ∃ p ∈ Exports.pairs content, .literal p.1 p.2 = d := by
    rintro outputs (⟨-, rfl⟩ | ⟨hread, rfl⟩) hd
    · exact absurd hd List.not_mem_nil
    · exact ⟨_, hread, List.mem_map.mp hd⟩
  cases h with
  | notPrepared _ _ _ houtputs => rw [houtputs] at hd; exact absurd hd List.not_mem_nil
  | notStarted _ _ _ _ _ houtputs => exact hread houtputs hd
  | ended _ _ _ _ houtputs => exact hread houtputs hd

end Visits

namespace Runner

variable {σ : Type} {r : Runner σ} {host : Host σ}

/-! ## What a step sees -/

/-- Where the source lacks a variable, it does so with the true values of cleared variables. -/
theorem Restores.get?_eq_none {env : Environment} {key : String} {state : σ}
    (h : r.Restores host state env) (hkey : (r.source state).get? key = none) :
    env.get? key = none := by
  cases h with
  | unnamed _ henv => rwa [henv]
  | unread _ _ henv => rwa [henv]
  | @read path cleared _ _ hvars =>
    refine Option.eq_none_iff_forall_ne_some.mpr fun w hw => ?_
    obtain rfl := Environment.key_of_get? hw
    have hrestored : env.vars = (r.source state).vars.map cleared.restoreVariable := hvars
    have hmem := Environment.mem_vars_iff.mpr hw
    rw [hrestored, List.mem_map] at hmem
    obtain ⟨v, hv, rfl⟩ := hmem
    rw [ClearedVariables.restoreVariable_key, Environment.mem_vars_iff.mp hv] at hkey
    exact absurd hkey (Option.some_ne_none v)

/-- **What a step sees** is what the scopes before it declare, if neither its plan nor its own
declarations have these variables. -/
theorem tells_of_resolution {first : Option StepResult} {before : Scopes}
    (h : before.Declares first) {entry : Entry σ}
    (hsource : ∀ key ∈ statusKeys, (r.source entry.state).get? key = none)
    (hstep : ∀ d ∈ entry.step.plan.bundleDeclarations ++ entry.step.declarations,
      d.Spares statusKeys)
    {resolution : Resolution} (hresolve : entry.resolution r host before = .ok resolution) :
    resolution.result.Tells first := by
  have hplan : ∀ d ∈ entry.step.plan.bundleDeclarations, d.Spares statusKeys := fun d hd =>
    hstep d (List.mem_append_left _ hd)
  have hown : ∀ d ∈ entry.step.declarations, d.Spares statusKeys := fun d hd =>
    hstep d (List.mem_append_right _ hd)
  have hfile : ∀ d ∈ [Declaration.literal Exports.fileKey entry.path], d.Spares statusKeys :=
    List.forall_mem_singleton.mpr
      (Declaration.spares_literal (by decide) (by decide) (by decide) entry.path)
  have hdeclares := ((h.enter hplan).visible.append hown).append hfile
  exact hdeclares _ _ (fun key hkey =>
    (r.restores_restoredSource host entry.state).get?_eq_none (hsource key hkey)) hresolve

/-! ## Runs that end early -/

/-- **A run that ends early has run the steps before its end**, and filed their results. -/
theorem exists_runFrom_take {secrets : SecretSet} {total index : Nat} {steps : List Step}
    {session last : Session σ} {stop : Option Error}
    (h : r.runFrom host secrets total index steps session = (last, stop)) :
    ∃ n next, r.runFrom host secrets total index (steps.take n) session = (next, none) ∧
      last.results = next.results ∧ (stop = none → steps.take n = steps) := by
  cases stop with
  | none => exact ⟨steps.length, last, by rwa [List.take_length], rfl, fun _ => List.take_length⟩
  | some e =>
    obtain ⟨n, _, next, _, -, hearlier, -, hresults, -⟩ := runFrom_stopped h
    exact ⟨n, next, hearlier, hresults, fun hnone => absurd hnone nofun⟩

/-! ## Every step of a run -/

/-- **Every step of a run sees how the build stands.** Take a run of a workflow on the scopes that
it starts with, whether or not it ends early, in which nothing that is given, declared or exported
has the names of the four variables, nor has the source at any time. Its visits are those of its
steps, or of the first of them, one after another; their results are those filed. Take any step that
gets a file after them or between them, whatever its bundle is. If its declarations resolve, its
process is started, if at all, with variables that are those of the resolution, and they say: if no
step before it was filed with an outcome that fails the build, that the build has not failed, and
nothing of a failed step; otherwise that it has failed, and of the first such result the title and
the reason as they are, which is its error message if it has one. -/
theorem run_tells {workflow : String} {steps : List Step}
    {runtime secrets app declared : List Declaration} {id title : String} {state : σ}
    {session : Session σ} {stop : Option Error}
    (h : r.run host workflow steps (.start runtime secrets app id title declared) state =
      (session, stop))
    (hsource : ∀ state, ∀ key ∈ statusKeys, (r.source state).get? key = none)
    (hgiven : ∀ d ∈ runtime ++ secrets ++ app ++ declared, d.Spares statusKeys)
    (hsteps : ∀ step ∈ steps, ∀ d ∈ step.plan.bundleDeclarations ++ step.declarations,
      d.Spares statusKeys) :
    let scopes := Scopes.start runtime secrets app id title declared
    ∃ visits : List (Visit σ),
      (visits.map (·.step) <+: steps ∧ (stop = none → visits.map (·.step) = steps)) ∧
      session.results = Results.recordAll { workflow } (visits.map (·.run.result)) ∧
      (∀ (i : Nat) (v : Visit σ), visits[i]? = some v →
        ∃ hidden, r.runSecrets scopes = .ok hidden ∧
          v.Fits r host hidden i (scopes.afterAll (Visit.events { workflow } (visits.take i)))
            (Visit.hostAfter host state (visits.take i))) ∧
      ∀ hidden, r.runSecrets scopes = .ok hidden →
        ∀ (i : Nat) (entry : Entry σ), i ≤ visits.length → steps[i]? = some entry.step →
          host.newFile r.settings.exportDirectory (Visit.hostAfter host state (visits.take i)) =
            .ok (entry.path, entry.state) →
          (∀ w ∈ visits.take i, ∀ d ∈ w.run.outputs, d.Spares statusKeys) →
          ∀ resolution program, entry.resolution r host
              (scopes.afterAll (Visit.events { workflow } (visits.take i))) = .ok resolution →
            r.Starts hidden entry.step resolution.result program →
            ∃ vars, program.vars = some vars ∧
              match (visits.take i).map (·.run.result) |>.filter (·.status.isFailure) with
              | [] =>
                (∀ value, (buildStatusKey, value) ∈ vars ↔ value = "0") ∧
                (∀ value, (stepLibraryStatusKey, value) ∈ vars ↔ value = "0") ∧
                (∀ value, (failedTitleKey, value) ∉ vars) ∧
                ∀ value, (failedMessageKey, value) ∉ vars
              | failure :: _ =>
                (∀ value, (buildStatusKey, value) ∈ vars ↔ value = "1") ∧
                (∀ value, (stepLibraryStatusKey, value) ∈ vars ↔ value = "1") ∧
                (∀ value, (failedTitleKey, value) ∈ vars ↔ value = failure.title) ∧
                ∀ value, (failedMessageKey, value) ∈ vars ↔
                  value = failure.errorMessage.getD (failure.status.reason failure.exitCode) := by
  intro scopes
  cases hhidden : r.runSecrets scopes with
  | error e =>
    -- no step is run
    rw [run_of_error hhidden] at h
    obtain ⟨rfl, rfl⟩ := Prod.mk.inj h
    exact ⟨[], ⟨List.nil_prefix, fun h => absurd h (Option.some_ne_none e)⟩, rfl,
      fun i v hv => absurd hv (by simp), nofun⟩
  | ok hidden =>
    obtain ⟨opening, last, hlast, hsession⟩ := run_of_secrets hhidden h
    obtain ⟨n, next, hnext, hresults, hall⟩ := exists_runFrom_take hlast
    obtain ⟨visits, hvisited, hfits, hleft⟩ := runFrom_visits hnext
    refine ⟨visits, ⟨hvisited ▸ List.take_prefix n steps, fun hstop => hvisited.trans (hall hstop)⟩,
      ?_, fun i v hv => ⟨hidden, rfl, ?_⟩, ?_⟩
    · rw [hsession]
      exact hresults.trans hleft.results
    · have hfit := hfits i v hv
      rwa [Nat.zero_add] at hfit
    · intro hidden _ i entry _ hentry _ houtputs resolution program hresolve hprogram
      refine ⟨resolution.result.toPairs, hprogram.vars, ?_⟩
      have hplans : ∀ w ∈ visits.take i, ∀ d ∈ w.step.plan.bundleDeclarations,
          d.Spares statusKeys := by
        intro w hw d hd
        have hw' : w.step ∈ steps.take n :=
          hvisited ▸ List.mem_map_of_mem (f := (·.step)) (List.mem_of_mem_take hw)
        exact hsteps w.step (List.mem_of_mem_take hw') d (List.mem_append_left _ hd)
      have hstart : scopes.Declares ({ workflow } : Results).failed.head? := .start hgiven
      have hdeclares := Scopes.Declares.visits hplans houtputs hstart
      have htells := tells_of_resolution hdeclares (hsource entry.state)
        (hsteps entry.step (List.mem_of_getElem? hentry)) hresolve
      rw [Results.failed_recordAll] at htells
      simp only [Environment.mem_toPairs_iff]
      cases hfailures : ((visits.take i).map (·.run.result)).filter (·.status.isFailure) with
      | nil =>
        rw [hfailures] at htells
        simp [htells.status, htells.mirror, htells.title, htells.message, statusText, eq_comm]
      | cons failure others =>
        rw [hfailures] at htells
        simp [htells.status, htells.mirror, htells.title, htells.message, statusText,
          StepResult.failureReason, eq_comm]

/-- A step of a bundle cannot be started. Its title and the error message look as if they held
references. The step after it, of no bundle, is told of it as it is. -/
theorem run_tells_bundled :
    let host : Host Unit := {
      newFile := fun _ _ => .ok ("/tmp/exports", ())
      read := fun _ _ => .ok (Utf8.encode "A=1")
      remove := fun _ _ => ()
      start := fun i _ => if i.program = "cp" then .refused
        else .ended { chunks := [], abort := none, exitCode := some 7 } () }
    let r : Runner Unit :=
      { settings := {}, source := fun _ => .ofPairs [("A", "0")], filters := false }
    let steps : List Step := [
      { title := "costs $A", program := "cp", arguments := ["$A"],
        plan := { bundle := "b", bundleDeclarations := [.plain "B" "1"] } },
      { title := "later", program := "b", plan := {}, declarations := [.plain "C" "2"] }]
    ∃ (visits : List (Visit Unit)) (v : Visit Unit) (resolution : Resolution)
      (vars : List (String × String)), visits.map (·.step) = steps ∧ visits[1]? = some v ∧
      v.resolution r host ((Scopes.start [] [] [] "wf" "wf" [.plain "D" "3"]).afterAll
        (Visit.events { workflow := "wf" } (visits.take 1))) = .ok resolution ∧
      (r.invocation {} v.step resolution.result).vars = some vars ∧
      (∀ value, (buildStatusKey, value) ∈ vars ↔ value = "1") ∧
      (∀ value, (failedTitleKey, value) ∈ vars ↔ value = "costs $A") ∧
      ∀ value, (failedMessageKey, value) ∈ vars ↔
        value = "Command failed with exit code None: cp $A" := by
  intro host r steps
  have hplain : ∀ {key : String} (value : String), key ≠ "" → key ≠ Declaration.optionsKey →
      key ∉ statusKeys → (Declaration.plain key value).Spares statusKeys :=
    fun value hne hopts hkey =>
      Declaration.spares_of_keyValue (Declaration.keyValue_plain hne hopts value) hkey
  have hresults :
      (r.run host "wf" steps (.start [] [] [] "wf" "wf" [.plain "D" "3"]) ()).1.results =
        { workflow := "wf", failed := [
          ⟨0, "costs $A", .failed, 1, some "Command failed with exit code None: cp $A"⟩,
          ⟨1, "later", .failed, 7, none⟩] } := by
    decide +kernel
  have hstop : (r.run host "wf" steps (.start [] [] [] "wf" "wf" [.plain "D" "3"]) ()).2 =
      none := by
    decide +kernel
  generalize hrun : r.run host "wf" steps (.start [] [] [] "wf" "wf" [.plain "D" "3"]) () = p
    at hresults hstop
  obtain ⟨session, stop⟩ := p
  obtain rfl : stop = none := hstop
  have hsource : ∀ key ∈ statusKeys, (Environment.ofPairs [("A", "0")]).get? key = none := by decide
  obtain ⟨visits, ⟨-, hall⟩, hfiled, hvisits, htells⟩ := run_tells hrun (fun _ => hsource)
    (List.forall_mem_singleton.mpr (hplain "3" (by decide) (by decide) (by decide)))
    (by
      refine List.forall_mem_cons.mpr ⟨?_, List.forall_mem_singleton.mpr ?_⟩
      · exact List.forall_mem_singleton.mpr (hplain "1" (by decide) (by decide) (by decide))
      · exact List.forall_mem_singleton.mpr (hplain "2" (by decide) (by decide) (by decide)))
  have hsteps : visits.map (·.step) = steps := hall rfl
  -- both steps were run and failed, or other results would be filed
  have hresults' : session.results.failed = _ := congrArg Results.failed hresults
  have hlength : (visits.map (·.run.result)).length = 2 := by
    simpa [steps] using congrArg List.length hsteps
  rw [hfiled, Results.failed_recordAll] at hresults'
  have hmap := List.filter_sublist.eq_of_length (by rw [hresults', hlength]; rfl)
  rw [hmap] at hresults'
  obtain ⟨first, rest, rfl, hfirst, hrest⟩ := List.map_eq_cons_iff.mp hresults'
  obtain ⟨second, others, rfl, hsecond, hothers⟩ := List.map_eq_cons_iff.mp hrest
  obtain rfl := List.map_eq_nil_iff.mp hothers
  have houtputs : ∀ w ∈ [first], ∀ d ∈ w.run.outputs, d.Spares statusKeys := by
    obtain ⟨_, _, hfits⟩ := hvisits 0 first rfl
    refine List.forall_mem_singleton.mpr fun d hd => ?_
    obtain ⟨content, hread, p, hp, rfl⟩ := hfits.went.mem_outputs hd
    have hcontent : content = "A=1" := by
      have htext : FileRead.text (.ok (Utf8.encode "A=1")) = .ok "A=1" := by
        simp [FileRead.text, Except.bind, Utf8.decode?_encode]
      exact Except.ok.inj (hread.symm.trans htext)
    have hpairs : Exports.pairs "A=1" = [("A", "1")] := by decide +kernel
    rw [hcontent, hpairs, List.mem_singleton] at hp
    rw [hp]
    exact Declaration.spares_literal (by decide) (by decide) (by decide) "1"
  obtain ⟨hidden, hhidden, hfits⟩ := hvisits 1 second rfl
  obtain rfl : {} = hidden := Except.ok.inj hhidden
  obtain ⟨resolution, hresolve⟩ := hfits.went.exists_resolution (by rw [hsecond]; decide)
  have hentry : steps[1]? = some second.step := congrArg (·[1]?) hsteps.symm
  obtain ⟨vars, hvars, hstatus⟩ := htells {} rfl 1 second.toEntry (Nat.le_succ 1) hentry hfits.file
    houtputs resolution _ hresolve (r.starts_invocation {} second.step resolution.result)
  rw [List.take_succ_cons, List.take_zero, List.map_singleton, hfirst] at hstatus
  exact ⟨_, second, resolution, vars, hsteps, rfl, hresolve, hvars, hstatus.1, hstatus.2.2.1,
    hstatus.2.2.2⟩

end Runner

end Stepwise
