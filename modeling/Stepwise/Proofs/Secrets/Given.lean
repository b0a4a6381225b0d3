import Stepwise.Proofs.Commands.Printed
import Stepwise.Proofs.Influence
import Stepwise.Proofs.Scopes.Beginning
import Stepwise.Proofs.Secrets.Members
import Stepwise.Steps.Runner

/-!
# Which values a step's redactor is given

The secrets of a run are resolved on their own. A step resolves the same declarations again on top
of the variables of its source and of the runtime, and there a reference may stand for something
else.

* `SecretSet.Covers`: a set has the values that declarations set on top of some environment, unless
  their texts are expanded from what was there before.
* `covers_ofDeclarations`: the set of a list of declarations covers it on top of any environment.
* `given_covers_secrets`: **the set given to a step covers the secrets as the step resolves them**,
  and has all sensitive values. So does the set of the command `envs` for its inventory.
-/

namespace Stepwise

namespace SecretSet

/-! ## Values on top of an environment -/

/-- The names whose values come from before `declarations` when the one at place `i` is carried out
on top of `before`. -/
def outsideAt (before : Environment) (declarations : List Declaration) (i : Nat) : List String :=
  (declarations.take i).foldl Declaration.spread before.filled

/-- The set has each value that is not empty and that a declaration set on top of `before`, unless
it is expanded from what comes from before the declarations. -/
def Covers (set : SecretSet) (before : Environment) (declarations : List Declaration)
    (history : List Command) : Prop :=
  ∀ (i : Nat) (d : Declaration) (v : Variable),
    declarations[i]? = some d → history[i]? = some (.set v) →
    d.draws (outsideAt before declarations i) = false → v.value ≠ "" → v.value ∈ set.values

/-- A larger set covers as much. -/
theorem Covers.merge {set : SecretSet} {before : Environment} {declarations : List Declaration}
    {history : List Command} (h : set.Covers before declarations history) (other : SecretSet) :
    (set.merge other).Covers before declarations history :=
  fun i d v hd hv hnot hne => mem_merge.mpr (Or.inl (h i d v hd hv hnot hne))

/-- **The set of secret declarations covers them on top of any environment.** They resolve on their
own if they resolve there. -/
theorem covers_ofDeclarations {before added : Environment} {done : Nat}
    {declarations : List Declaration} {r : Resolution}
    (h : Resolution.continueFrom done before added declarations = .ok r) :
    ∃ set, ofDeclarations declarations = .ok set ∧ set.Covers before declarations r.history := by
  obtain ⟨own, hown, hagree⟩ := Resolution.continueFrom_agree 0 .empty before.agreeOff_filled h
  refine ⟨ofList (own.history.filterMap Command.value?), ?_, ?_⟩
  · unfold ofDeclarations resolve
    rw [hown]
    rfl
  · intro i d v hd hv hnot hne
    obtain ⟨c, hc, hvalue⟩ := hagree i d (.set v) hd hnot hv
    exact mem_ofList (List.mem_filterMap.mpr ⟨c, List.mem_of_getElem? hc, hvalue⟩) hne

end SecretSet

/-! ## Steps -/

namespace Runner

open Scopes (Event start)

/-- What a step resolves first: the variables of the runtime, then the secrets. -/
theorem declarationsOf_start (runtime secrets app : List Declaration) (id title : String)
    (workflow : List Declaration) (events : List Event) (step : Step) (path : String) :
    ∃ rest, declarationsOf (((start runtime secrets app id title workflow).afterAll events).enter
      step.plan) step path = runtime ++ (secrets ++ rest) := by
  obtain ⟨rest, hrest⟩ :=
    Scopes.visible_start runtime secrets app id title workflow events step.plan
  refine ⟨rest ++ step.declarations ++ [.literal Exports.fileKey path], ?_⟩
  unfold declarationsOf
  rw [← hrest]
  simp only [List.append_assoc]

/-- **The secrets in the middle of a list** of declarations that resolves: their set exists and
covers them on top of what the declarations before them made. -/
theorem covers_middle {source : Environment} {runtime secrets rest : List Declaration}
    {r : Resolution} (h : resolve (runtime ++ (secrets ++ rest)) source = .ok r) :
    ∃ set, SecretSet.ofDeclarations secrets = .ok set ∧
      set.Covers (replay (r.history.take runtime.length) source) secrets
        (r.history.drop runtime.length) := by
  obtain ⟨first, second, hfirst, hsecond, rfl⟩ := Resolution.exists_of_continueFrom_append h
  obtain ⟨own, others, hown, -, rfl⟩ := Resolution.exists_of_continueFrom_append hsecond
  obtain ⟨set, hset, hcovers⟩ := SecretSet.covers_ofDeclarations hown
  refine ⟨set, hset, fun i d v hd hv hnot hne => hcovers i d v hd ?_ ?_ hne⟩
  · -- the place of a secret in its own history is its place after those of the runtime
    rw [← Resolution.history_length hfirst, List.drop_left] at hv
    rwa [List.getElem?_append_left] at hv
    rw [Resolution.history_length hown]
    exact (List.getElem?_eq_some_iff.mp hd).1
  · rw [← Resolution.history_length hfirst, List.take_left, ← (Resolution.eq_replay hfirst).1]
      at hnot
    exact hnot

end Runner

namespace SecretSet

open CommandLine (EnvsRequest inventoryOf)
open Scopes (Event start)

/-- **The set given to a step covers the secrets as the step resolves them.** With filtering, let a
step's declarations resolve in any state of the scopes. Then the secrets of the run resolve, and
what is hidden in the step's output has each value that is not empty and that a secret sets in the
step's own resolution, unless it is expanded from what the source or the runtime gave; it also has
each value of a sensitive variable that is not empty. The command `envs` hides as much of its
inventory. -/
theorem given_covers_secrets :
    (∀ {σ : Type} (r : Runner σ) (source : Environment)
      (runtime secrets app workflow : List Declaration) (id title : String)
      (earlier later : List Event) (step : Step) (path : String) (resolution : Resolution),
      let scopes := (start runtime secrets app id title workflow).afterAll earlier
      r.filters = true →
      resolve (Runner.declarationsOf ((scopes.afterAll later).enter step.plan) step path) source =
        .ok resolution →
      ∃ set given, r.runSecrets scopes = .ok set ∧
        (r.invocation set step resolution.result).secrets = some given ∧
        given.Covers (replay (resolution.history.take runtime.length) source) secrets
          (resolution.history.drop runtime.length) ∧
        ∀ v ∈ resolution.result.vars, v.isSensitive = true → v.value ≠ "" →
          v.value ∈ given.values) ∧
    (∀ (request : EnvsRequest) (env : Environment) (read : String → FileRead)
      (lines : List String), request.lines env read = .ok lines →
      ∃ (inventory declarations : List Declaration) (base effects : Resolution) (set : SecretSet),
        (inventoryOf request.inventory read = .ok inventory ∧
          Declaration.load request.declarations (read request.declarations) = .ok declarations ∧
          resolve inventory env = .ok base ∧ resolve declarations base.result = .ok effects ∧
          lines = effects.history.map (Command.line set)) ∧
        set.Covers env inventory base.history) := by
  constructor
  · intro σ r source runtime secrets app workflow id title earlier later step path resolution scopes
      hfilters hresolve
    have hscopes : (scopes.afterAll later) =
        (start runtime secrets app id title workflow).afterAll (earlier ++ later) :=
      (List.foldl_append ..).symm
    rw [hscopes] at hresolve
    obtain ⟨rest, hrest⟩ :=
      Runner.declarationsOf_start runtime secrets app id title workflow (earlier ++ later) step path
    rw [hrest] at hresolve
    obtain ⟨set, hset, hcovers⟩ := Runner.covers_middle hresolve
    refine ⟨set, set.merge (.ofEnvironment resolution.result), ?_, ?_, hcovers.merge _, ?_⟩
    · rw [Runner.runSecrets, if_pos hfilters, Scopes.secrets_afterAll]
      exact hset
    · show r.secretsOf set resolution.result = _
      rw [Runner.secretsOf, if_pos hfilters]
    · intro v hv hsensitive hne
      have hvalue : v.value ∈ resolution.result.sensitiveValues :=
        Environment.mem_sensitiveValues_iff.mpr ⟨v, hv, hsensitive, rfl⟩
      exact mem_merge.mpr (Or.inr (mem_ofList hvalue hne))
  · intro request env read lines hlines
    obtain ⟨inventory, declarations, base, effects, set, hinventory, hload, hbase, heffects, hset,
      hshown⟩ := CommandLine.lines_eq_ok.mp hlines
    obtain ⟨own, hown, hcovers⟩ := covers_ofDeclarations hbase
    obtain rfl : set = own := Except.ok.inj (hset.symm.trans hown)
    exact ⟨inventory, declarations, base, effects, set,
      ⟨hinventory, hload, hbase, heffects, hshown⟩, hcovers⟩

/-- A secret that is expanded from another one, which replaces a variable of the host, and a step
that declares a sensitive variable of its own. -/
theorem given_covers_expanded :
    let source := Environment.ofPairs [("BASE", "host")]
    let r : Runner Unit := { settings := {}, source := fun _ => source, filters := true }
    let secrets : List Declaration := [.plain "BASE" "hidden", .expanded "TOKEN" "$BASE-key"]
    let scopes := start [] secrets [] "wf" "Workflow" []
    let pin := (Declaration.plain "PIN" "1234").withOptions { isSensitive := some true }
    let step : Step :=
      { title := "deploy", program := "deploy", plan := {}, declarations := [pin] }
    let request : EnvsRequest := { inventory := some "inventory", declarations := "declarations" }
    let read (path : String) : FileRead :=
      .ok (Utf8.encode (if path = "inventory" then "envs: [A: hidden]" else "- B: hidden"))
    (∃ resolution set given,
      resolve (Runner.declarationsOf (scopes.enter step.plan) step "exports") source =
        .ok resolution ∧
      r.runSecrets scopes = .ok set ∧
      (r.invocation set step resolution.result).secrets = some given ∧
      "hidden-key" ∈ given.values ∧ "1234" ∉ set.values ∧ "1234" ∈ given.values) ∧
    ∃ (inventory : List Declaration) (base : Resolution) (set : SecretSet),
      request.lines source read = .ok ["set B=[REDACTED]"] ∧
      inventoryOf request.inventory read = .ok inventory ∧
      set.Covers source inventory base.history := by
  intro source r secrets scopes pin step request read
  constructor
  · have hstep : ((resolve (Runner.declarationsOf (scopes.enter step.plan) step "exports")
        source).toOption.map fun n => (n.history[1]?, n.result.get? "PIN")) =
        some (some (.set ⟨"TOKEN", "hidden-key", false⟩), some ⟨"PIN", "1234", true⟩) := by
      decide +kernel
    obtain ⟨resolution, hresolution, hfound⟩ := Option.map_eq_some_iff.mp hstep
    obtain ⟨hset, hpin⟩ := Prod.mk.inj hfound
    have hresolve := eq_ok_of_toOption hresolution
    obtain ⟨set, given, hsecrets, hgiven, hcovers, hsensitive⟩ := given_covers_secrets.1 r source []
      secrets [] [] "wf" "Workflow" [] [] step "exports" resolution rfl hresolve
    have hnot : (Declaration.expanded "TOKEN" "$BASE-key").draws (outsideAt source secrets 1) =
        false := by decide +kernel
    have hknown : r.runSecrets scopes = .ok ⟨["hidden", "hidden-key"]⟩ :=
      eq_ok_of_toOption (by decide +kernel)
    obtain rfl : _ = set := Except.ok.inj (hknown.symm.trans hsecrets)
    have hmem : ⟨"PIN", "1234", true⟩ ∈ resolution.result.vars := Environment.mem_vars_iff.mpr hpin
    exact ⟨resolution, _, given, hresolve, hsecrets, hgiven,
      hcovers 1 _ _ rfl hset hnot (by decide), by decide, hsensitive _ hmem rfl (by decide)⟩
  · have hlines : request.lines source read = .ok ["set B=[REDACTED]"] :=
      eq_ok_of_toOption (by decide +kernel)
    obtain ⟨inventory, -, base, -, set, ⟨hinventory, -⟩, hcovers⟩ :=
      given_covers_secrets.2 request source read _ hlines
    exact ⟨inventory, base, set, hlines, hinventory, hcovers⟩

/-- **A value that is expanded from the host's variables is missing.** On its own the secret comes
out without what the host gives; the step and the command `envs` see another value. -/
theorem given_misses_host_values :
    let source := Environment.ofPairs [("BASE", "host")]
    let r : Runner Unit := { settings := {}, source := fun _ => source, filters := true }
    let secrets : List Declaration := [.expanded "TOKEN" "$BASE-key"]
    let scopes := start [] secrets [] "wf" "Workflow" []
    let step : Step := { title := "deploy", program := "deploy", plan := {} }
    (∃ resolution set given v,
      resolve (Runner.declarationsOf (scopes.enter step.plan) step "exports") source =
        .ok resolution ∧
      r.runSecrets scopes = .ok set ∧
      (r.invocation set step resolution.result).secrets = some given ∧
      resolution.history[0]? = some (.set v) ∧ v.value ≠ "" ∧ v.value ∉ given.values) ∧
    ∃ base set v, resolve secrets source = .ok base ∧ ofDeclarations secrets = .ok set ∧
      base.history[0]? = some (.set v) ∧ v.value ≠ "" ∧ v.value ∉ set.values := by
  intro source r secrets scopes step
  have hset : r.runSecrets scopes = .ok ⟨["-key"]⟩ := eq_ok_of_toOption (by decide +kernel)
  constructor
  · have hgiven : ((resolve (Runner.declarationsOf (scopes.enter step.plan) step "exports")
        source).toOption.map fun n =>
          (n.history[0]?, (r.invocation ⟨["-key"]⟩ step n.result).secrets)) =
        some (some (.set ⟨"TOKEN", "host-key", false⟩), some ⟨["-key"]⟩) := by
      decide +kernel
    obtain ⟨resolution, hresolution, hstep⟩ := Option.map_eq_some_iff.mp hgiven
    obtain ⟨hcommand, hsecrets⟩ := Prod.mk.inj hstep
    exact ⟨resolution, _, _, _, eq_ok_of_toOption hresolution, hset, hsecrets, hcommand,
      by decide, by decide⟩
  · have hbase : ((resolve secrets source).toOption.bind (·.history[0]?)) =
        some (.set ⟨"TOKEN", "host-key", false⟩) := by
      decide +kernel
    obtain ⟨base, hresolve, hcommand⟩ := Option.bind_eq_some_iff.mp hbase
    exact ⟨base, _, _, eq_ok_of_toOption hresolve, hset, hcommand, by decide, by decide⟩

end SecretSet

end Stepwise
