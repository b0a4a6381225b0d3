import Mathlib.Data.List.Induction
import Stepwise.Proofs.Scopes.Growth

/-!
# Stays in a bundle

A stay in a bundle begins with a step of the bundle before which execution was elsewhere, and goes
on until a step starts elsewhere. What a step of a bundle sees goes back to the beginning of its
stay.

* `started`, `lastBundle`: the steps that events start, and the bundle of the last one.
* `Stay`: events that end within a stay in a bundle, cut at its beginning.
* `exists_stay`: events that end with a step of a bundle end within a stay in it.
* `bundle_afterAll`: during a stay the bundle scope grows by what updates add.
* `visible_of_stay`: what a step of the stay sees.
* `scopes_of_run`: **the scope law**. The workflow scope and what each step sees, told from the
  events.
-/

namespace Stepwise.Scopes

namespace Event

/-- The plan of the step that an event starts. -/
def plan? : Event → Option Plan
  | .startStep plan => some plan
  | _ => none

/-- The event without the declarations of a bundle. -/
def bare : Event → Event
  | .startStep plan => .startStep { plan with bundleDeclarations := [] }
  | e => e

end Event

/-- The plans of the steps that events start. -/
def started (events : List Event) : List Plan :=
  events.filterMap Event.plan?

/-- The bundle of the last step that events start. -/
def lastBundle (events : List Event) : String :=
  ((started events).getLast?.map Plan.bundle).getD ""

/-- Events that end within a stay in a bundle: `before` leaves execution elsewhere, the step of
`first` enters the bundle, and all steps that start `since` are of the bundle. -/
structure Stay (bundle : String) (events before : List Event) (first : Plan)
    (since : List Event) : Prop where
  split : events = before ++ .startStep first :: since
  enters : lastBundle before ≠ bundle
  bundle_first : first.bundle = bundle
  stays : ∀ plan ∈ started since, plan.bundle = bundle

/-! ## Where execution is -/

theorem started_append (first second : List Event) :
    started (first ++ second) = started first ++ started second :=
  List.filterMap_append

theorem started_singleton (e : Event) : started [e] = e.plan?.toList := by
  cases e <;> rfl

theorem mem_started_singleton {e : Event} {plan : Plan} :
    plan ∈ started [e] ↔ e.plan? = some plan := by
  rw [started_singleton, Option.mem_toList]

/-- Execution goes where a step starts, and stays where it is otherwise. -/
theorem lastBundle_concat (events : List Event) (e : Event) :
    lastBundle (events ++ [e]) = (e.plan?.map Plan.bundle).getD (lastBundle events) := by
  rw [lastBundle, started_append, started_singleton]
  cases e.plan? with
  | none =>
    rw [Option.toList_none, List.append_nil]
    rfl
  | some plan =>
    rw [Option.toList_some, List.getLast?_concat]
    rfl

theorem bundleId_after (s : Scopes) (e : Event) :
    (s.after e).bundleId = (e.plan?.map Plan.bundle).getD s.bundleId := by
  cases e with
  | startWorkflow declarations => rfl
  | startStep plan =>
    show (s.enter plan).bundleId = plan.bundle
    unfold enter
    split
    · rename_i h
      exact h.symm
    · rfl
  | finishStep outputs results => rfl

/-- The scopes are those of the last bundle that was entered. -/
theorem bundleId_afterAll {s : Scopes} (hs : s.bundleId = "") (events : List Event) :
    (s.afterAll events).bundleId = lastBundle events := by
  induction events using List.reverseRecOn with
  | nil => exact hs
  | append_singleton events e ih =>
    rw [afterAll_append, lastBundle_concat, ← ih]
    exact bundleId_after _ e

/-! ## Stays -/

variable {bundle : String} {events before since : List Event} {first : Plan}

/-- A stay goes on with an event that starts no step elsewhere. -/
theorem Stay.concat (h : Stay bundle events before first since) {e : Event}
    (he : ∀ plan, e.plan? = some plan → plan.bundle = bundle) :
    Stay bundle (events ++ [e]) before first (since ++ [e]) where
  split := by rw [h.split, List.append_assoc, List.cons_append]
  enters := h.enters
  bundle_first := h.bundle_first
  stays plan hplan := by
    rw [started_append, List.mem_append, mem_started_singleton] at hplan
    exact hplan.elim (h.stays plan) (he plan)

/-- **Events after which execution is in a bundle end within a stay in it.** -/
theorem exists_stay (hbundle : bundle ≠ "") (h : lastBundle events = bundle) :
    ∃ before first since, Stay bundle events before first since := by
  induction events using List.reverseRecOn with
  | nil => exact absurd h.symm hbundle
  | append_singleton events e ih =>
    rw [lastBundle_concat] at h
    by_cases hearlier : lastBundle events = bundle
    · -- the stay was there before the last event
      obtain ⟨before, first, since, hstay⟩ := ih hearlier
      refine ⟨before, first, _, hstay.concat fun plan hplan => ?_⟩
      rw [hplan] at h
      exact h
    · cases e with
      | startStep plan => exact ⟨events, plan, [], rfl, hearlier, h, nofun⟩
      | startWorkflow declarations => exact absurd h hearlier
      | finishStep outputs results => exact absurd h hearlier

/-! ## The bundle scope during a stay -/

/-- One event of a stay: only an update adds to the bundle scope. -/
theorem bundle_after {s : Scopes} (hin : s.inBundle = true) {e : Event}
    (he : ∀ plan, e.plan? = some plan → plan.bundle = s.bundleId) :
    (s.after e).bundleId = s.bundleId ∧
      (s.after e).bundle = s.bundle ++ if e.isUpdate then e.additions s.buildFailed else [] := by
  cases e with
  | startWorkflow declarations => exact ⟨rfl, (List.append_nil _).symm⟩
  | startStep plan =>
    have hsame : s.after (.startStep plan) = s := if_pos (he plan rfl)
    rw [hsame]
    exact ⟨rfl, (List.append_nil _).symm⟩
  | finishStep outputs results =>
    refine ⟨rfl, ?_⟩
    show (if s.inBundle then s.bundle ++ s.additions outputs results else s.bundle) = _
    rw [if_pos hin, additions_eq]
    rfl

/-- **During a stay the bundle scope grows by what updates add.** -/
theorem bundle_afterAll {s : Scopes} (hin : s.inBundle = true)
    (hstays : ∀ plan ∈ started events, plan.bundle = s.bundleId) :
    (s.afterAll events).bundleId = s.bundleId ∧
      (s.afterAll events).bundle =
        s.bundle ++ grown s.buildFailed (events.filter Event.isUpdate) := by
  induction events generalizing s with
  | nil => exact ⟨rfl, (List.append_nil _).symm⟩
  | cons e events ih =>
    have hsplit : started (e :: events) = started [e] ++ started events :=
      started_append [e] events
    rw [hsplit] at hstays
    obtain ⟨hid, hbundle⟩ := bundle_after hin fun plan hplan =>
      hstays plan (List.mem_append_left _ (mem_started_singleton.mpr hplan))
    have hin' : (s.after e).inBundle = true := by
      rw [inBundle, hid]
      exact hin
    obtain ⟨ihid, ihbundle⟩ := ih hin' fun plan hplan =>
      (hstays plan (List.mem_append_right _ hplan)).trans hid.symm
    refine ⟨ihid.trans hid, ?_⟩
    rw [afterAll_cons, ihbundle, hbundle, buildFailed_after, List.filter_cons, List.append_assoc]
    cases hupdate : e.isUpdate with
    | true => rfl
    | false =>
      rw [Event.sawFailure_of_not_isUpdate hupdate, Bool.or_false]
      rfl

/-! ## What a step sees -/

/-- Outside a bundle a step sees the workflow scope. -/
theorem visible_enter_of_not_inBundle (s : Scopes) {plan : Plan} (h : plan.bundle = "") :
    (s.enter plan).visible = s.workflow := by
  have hid : (s.enter plan).bundleId = "" := (bundleId_after s (.startStep plan)).trans h
  have hworkflow : (s.enter plan).workflow = s.workflow :=
    (workflow_after s (.startStep plan)).trans (List.append_nil _)
  rw [visible, inBundle, hid, hworkflow]
  rfl

/-- **What a step of a stay sees**: the workflow scope at the beginning of the stay, the
declarations that the first step brought, and what updates added since. -/
theorem visible_of_stay {s : Scopes} (hs : s.bundleId = "") (hbundle : bundle ≠ "")
    (h : Stay bundle events before first since) :
    (s.afterAll events).visible =
      (s.afterAll before).workflow ++ first.bundleDeclarations ++
        grown (s.buildFailed || before.any Event.sawFailure) (since.filter Event.isUpdate) := by
  have hother : first.bundle ≠ (s.afterAll before).bundleId := by
    rw [bundleId_afterAll hs, h.bundle_first]
    exact h.enters.symm
  have hfirst : first.inBundle = true := by
    rw [Plan.inBundle, h.bundle_first]
    exact decide_eq_true hbundle
  have hentered : (s.afterAll before).enter first =
      { s.afterAll before with
        bundleId := first.bundle
        bundle := (s.afterAll before).workflow ++ first.bundleDeclarations } := by
    rw [enter, if_neg hother, if_pos hfirst]
  have hin : ((s.afterAll before).enter first).inBundle = true := by
    rw [hentered]
    exact hfirst
  have hstays : ∀ plan ∈ started since,
      plan.bundle = ((s.afterAll before).enter first).bundleId := by
    rw [hentered]
    exact fun plan hplan => (h.stays plan hplan).trans h.bundle_first.symm
  obtain ⟨hid, hscope⟩ := bundle_afterAll hin hstays
  have hrun : s.afterAll events = ((s.afterAll before).enter first).afterAll since := by
    rw [h.split, afterAll_append]
    rfl
  have hstill : (((s.afterAll before).enter first).afterAll since).inBundle = true := by
    rw [inBundle, hid]
    exact hin
  rw [hrun, visible, if_pos hstill, hscope, hentered, buildFailed_afterAll]

/-! ## Without the declarations of bundles -/

theorem Event.bare_additions (announced : Bool) (e : Event) :
    e.bare.additions announced = e.additions announced := by
  cases e <;> rfl

theorem Event.bare_sawFailure (e : Event) : e.bare.sawFailure = e.sawFailure := by
  cases e <;> rfl

theorem Event.bare_isUpdate (e : Event) : e.bare.isUpdate = e.isUpdate := by
  cases e <;> rfl

theorem Event.bare_plan? (e : Event) : e.bare.plan?.map Plan.bundle = e.plan?.map Plan.bundle := by
  cases e <;> rfl

theorem any_sawFailure_bare (events : List Event) :
    (events.map Event.bare).any Event.sawFailure = events.any Event.sawFailure := by
  rw [List.any_map]
  exact congrArg events.any (funext Event.bare_sawFailure)

theorem filter_isUpdate_bare (events : List Event) :
    (events.map Event.bare).filter Event.isUpdate =
      (events.filter Event.isUpdate).map Event.bare := by
  rw [List.filter_map]
  exact congrArg (fun p => (events.filter p).map Event.bare) (funext Event.bare_isUpdate)

theorem started_bare (events : List Event) :
    (started (events.map Event.bare)).map Plan.bundle = (started events).map Plan.bundle := by
  unfold started
  rw [List.filterMap_map, List.map_filterMap, List.map_filterMap]
  exact congrArg events.filterMap (funext Event.bare_plan?)

theorem lastBundle_bare (events : List Event) :
    lastBundle (events.map Event.bare) = lastBundle events := by
  unfold lastBundle
  rw [← List.getLast?_map, ← List.getLast?_map, started_bare]

/-- The declarations of bundles are nothing that events add. -/
theorem grown_bare (announced : Bool) (events : List Event) :
    grown announced (events.map Event.bare) = grown announced events := by
  induction events generalizing announced with
  | nil => rfl
  | cons e events ih =>
    rw [List.map_cons, grown, grown, ih, Event.bare_additions, Event.bare_sawFailure]

/-- A stay is one whatever other steps bring. -/
theorem Stay.bare (h : Stay bundle events before first since) :
    Stay bundle (before.map Event.bare ++ .startStep first :: since.map Event.bare)
      (before.map Event.bare) first (since.map Event.bare) where
  split := rfl
  enters := by
    rw [lastBundle_bare]
    exact h.enters
  bundle_first := h.bundle_first
  stays plan hplan := by
    have hmem := List.mem_map_of_mem (f := Plan.bundle) hplan
    rw [started_bare] at hmem
    obtain ⟨plan', hplan', heq⟩ := List.mem_map.mp hmem
    exact heq.symm.trans (h.stays plan' hplan')

/-! ## The scope law -/

/-- What a run begins with, declaration by declaration. -/
theorem workflow_start (runtime secrets app : List Declaration) (id title : String)
    (workflow : List Declaration) :
    (start runtime secrets app id title workflow).workflow =
      runtime ++ secrets ++ app ++
        [.plain "RUNWAY_BUILD_STATUS" "0", .plain "STEPLIB_BUILD_STATUS" "0",
         .plain "RUNWAY_TRIGGERED_WORKFLOW_ID" id,
         .plain "RUNWAY_TRIGGERED_WORKFLOW_TITLE" title] ++ workflow :=
  congrArg (· ++ workflow) (List.append_assoc (runtime ++ secrets ++ app) _ _)

/-- **The scope law.** After any events the workflow scope is the one that the run began with and
what the events added, in order. The run begins with the declarations of the runtime, the secrets,
those of the app, that the build passes, which workflow was started, and those of the workflow. A
step outside bundles sees just the workflow scope. A step of a bundle sees the workflow scope at the
beginning of its stay, the declarations of the step that began the stay, and what updates added
since. What other steps bring for their bundles is not in the workflow scope, and no step of the
stay sees it. -/
theorem scopes_of_run (runtime secrets app : List Declaration) (id title : String)
    (workflow : List Declaration) (events : List Event) :
    let run (events : List Event) := (start runtime secrets app id title workflow).afterAll events
    ((run events).workflow =
        runtime ++ secrets ++ app ++
          [.plain "RUNWAY_BUILD_STATUS" "0", .plain "STEPLIB_BUILD_STATUS" "0",
           .plain "RUNWAY_TRIGGERED_WORKFLOW_ID" id,
           .plain "RUNWAY_TRIGGERED_WORKFLOW_TITLE" title] ++
          workflow ++ grown false events ∧
      (run (events.map Event.bare)).workflow = (run events).workflow) ∧
    (∀ plan : Plan, plan.bundle = "" → ((run events).enter plan).visible = (run events).workflow) ∧
    ∀ plan : Plan, plan.bundle ≠ "" →
      (∃ before first since, Stay plan.bundle (events ++ [.startStep plan]) before first since) ∧
      ∀ before first since, Stay plan.bundle (events ++ [.startStep plan]) before first since →
        ((run events).enter plan).visible =
          (run before).workflow ++ first.bundleDeclarations ++
            grown (before.any Event.sawFailure) (since.filter Event.isUpdate) ∧
        (run (before.map Event.bare ++ .startStep first :: since.map Event.bare)).visible =
          ((run events).enter plan).visible := by
  intro run
  have hworkflow : ∀ events, (run events).workflow =
      (start runtime secrets app id title workflow).workflow ++ grown false events :=
    workflow_afterAll (start runtime secrets app id title workflow)
  have hbare : ∀ events, (run (events.map Event.bare)).workflow = (run events).workflow := by
    intro events
    rw [hworkflow, hworkflow, grown_bare]
  have hinitial : (run events).workflow = _ := hworkflow events
  rw [workflow_start] at hinitial
  refine ⟨⟨hinitial, hbare events⟩,
    fun plan hplan => visible_enter_of_not_inBundle _ hplan, fun plan hplan => ⟨?_, ?_⟩⟩
  · exact exists_stay hplan (lastBundle_concat events (.startStep plan))
  · intro before first since hstay
    have henter : (run events).enter plan = run (events ++ [.startStep plan]) :=
      (afterAll_append _ events [.startStep plan]).symm
    have hvisible :=
      visible_of_stay (s := start runtime secrets app id title workflow) rfl hplan hstay
    have hvisible' :=
      visible_of_stay (s := start runtime secrets app id title workflow) rfl hplan hstay.bare
    rw [any_sawFailure_bare, filter_isUpdate_bare, grown_bare] at hvisible'
    rw [henter]
    exact ⟨hvisible, hvisible'.trans (by rw [hvisible, ← hbare before])⟩

/-- A bundle that is left and entered again: of the declarations that its steps bring, the last step
sees those of the step that entered it again. -/
theorem scopes_of_run_reentered :
    let declared (key : String) : Declaration := .plain key "1"
    let bundled (key : String) : Plan := { bundle := "b", bundleDeclarations := [declared key] }
    let passed : Results := { workflow := "wf" }
    let before : List Event :=
      [.startStep (bundled "FIRST"), .finishStep [declared "EARLY"] passed, .startStep {}]
    let since : List Event :=
      [.startWorkflow [declared "WORKFLOW"], .finishStep [declared "LATE"] passed,
       .startStep (bundled "THIRD")]
    let events := before ++ .startStep (bundled "SECOND") :: since.take 2
    let initial := start [] [] [] "wf" "Workflow" []
    Stay "b" (events ++ [.startStep (bundled "THIRD")]) before (bundled "SECOND") since ∧
      ((initial.afterAll events).enter (bundled "THIRD")).visible =
        [.plain "RUNWAY_BUILD_STATUS" "0", .plain "STEPLIB_BUILD_STATUS" "0",
         .plain "RUNWAY_TRIGGERED_WORKFLOW_ID" "wf",
         .plain "RUNWAY_TRIGGERED_WORKFLOW_TITLE" "Workflow",
         declared "EARLY", declared "SECOND", declared "LATE"] ∧
      ((initial.afterAll events).enter {}).visible = (initial.afterAll events).workflow := by
  intro declared bundled passed before since events initial
  have hstay : Stay "b" (events ++ [.startStep (bundled "THIRD")]) before (bundled "SECOND")
      since :=
    ⟨rfl, by decide, rfl, fun plan hplan => by
      obtain rfl : plan = bundled "THIRD" := List.mem_singleton.mp hplan
      rfl⟩
  obtain ⟨-, houtside, hinside⟩ := scopes_of_run [] [] [] "wf" "Workflow" [] events
  exact ⟨hstay, ((hinside (bundled "THIRD") (by decide)).2 _ _ _ hstay).1, houtside {} rfl⟩

end Stepwise.Scopes
