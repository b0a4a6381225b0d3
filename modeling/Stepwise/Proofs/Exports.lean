import Stepwise.Proofs.Declaration.Encoding
import Stepwise.Proofs.History
import Stepwise.Proofs.Scopes.Outputs
import Stepwise.Steps.Runner

/-!
# What becomes of exported variables

The variables of a step's file become declarations, and later steps resolve them with all others.
The declaration of a variable holds its options beside it, under the key `opts`; a variable of that
name gives way to its own options, and then the declaration names no variable.

* `Declaration.keyValue_literal`, `readOptions_literal`: what the declaration of an exported
  variable says.
* `Declaration.readable_literal_iff`: it can be read unless the variable has no name or is called
  `opts`.
* `Exports.key_ne_empty`: no exported variable is without a name.
* `Exports.exports_declared`: **exported variables survive** in every list of declarations that they
  are appended to and in every later step, unless one is called `opts`.
-/

namespace Stepwise

namespace Declaration

/-! ## Declarations that are taken as they are -/

/-- The options of a declaration whose value is taken as it is. -/
def literalOptions : Options := { isExpand := some false }

/-- The options of a variable called `opts` take the place of its value. -/
theorem entries_literal_optionsKey (value : String) :
    (literal optionsKey value).entries = [(.text optionsKey, literalOptions.toValue)] := rfl

/-- The fault of a declaration of a variable called `opts`. -/
def optionsKeyFault : Error :=
  .malformed "\x7bopts\x7d" none (.noVariable [optionsKey])

/-- **The variable of such a declaration**, if it can be told from the options. -/
theorem keyValue_literal {key : String} (hne : key ≠ "") (value : String) :
    (literal key value).keyValue =
      if key = optionsKey then .error optionsKeyFault else .ok (key, value) := by
  by_cases h : key = optionsKey
  · subst h
    have hkeys : (literal optionsKey value).sortedKeys = [optionsKey] := by
      simp [sortedKeys, entries_literal_optionsKey, keyName, Value.asText?]
    have hfault : (literal optionsKey value).malformed (.noVariable [optionsKey]) =
        optionsKeyFault := by
      simp only [malformed, displayKey, entries_literal_optionsKey, hkeys]
      rfl
    unfold keyValue binding
    rw [hkeys, entries_literal_optionsKey, if_pos rfl, ← hfault]
    rfl
  · rw [if_neg h]
    exact keyValue_plain_withOptions hne h value literalOptions

theorem readOptions_literal (key value : String) :
    (literal key value).readOptions = .ok literalOptions :=
  readOptions_withOptions _ literalOptions

/-- **Such a declaration can be read** unless its variable has no name or that of the options. -/
theorem readable_literal_iff {key : String} (hne : key ≠ "") {value : String} :
    (literal key value).Readable ↔ key ≠ optionsKey := by
  unfold Readable
  rw [keyValue_literal hne, readOptions_literal]
  by_cases h : key = optionsKey <;> simp [h]

/-- It sets its variable to its value, in any environment. -/
theorem command_literal {key : String} (hne : key ≠ "") (hopts : key ≠ optionsKey) (value : String)
    (env : Environment) : (literal key value).command env = .ok (.set ⟨key, value, false⟩) := by
  refine command_eq_ok.mpr ⟨key, value, literalOptions, ?_, readOptions_literal key value, rfl⟩
  rw [keyValue_literal hne, if_neg hopts]

end Declaration

namespace Exports

/-! ## The variables of a file -/

theorem key_ne_empty_of_ofLine? {line : List Char} {p : String × String}
    (h : ofLine? line = some p) : p.1 ≠ "" := by
  unfold ofLine? at h
  simp only at h
  split at h
  · exact absurd h nofun
  · split at h
    · exact absurd h nofun
    · rename_i hkey
      rw [← Option.some.inj h]
      intro hempty
      exact hkey (by simpa using hempty)

/-- **No exported variable is without a name.** -/
theorem key_ne_empty {content : String} {p : String × String} (h : p ∈ pairs content) :
    p.1 ≠ "" := by
  obtain ⟨line, -, hline⟩ := List.mem_filterMap.mp h
  exact key_ne_empty_of_ofLine? hline

/-- The commands of exported variables. -/
def sets (vars : List (String × String)) : List Command :=
  vars.map fun p => .set ⟨p.1, p.2, false⟩

/-- The last change of a variable by exports is its last export. -/
theorem lastChange_sets (key : String) (vars : List (String × String)) :
    lastChange key (sets vars) =
      (vars.filter (·.1 = key)).getLast?.map fun p => .set ⟨p.1, p.2, false⟩ := by
  unfold lastChange sets
  rw [List.filter_map, List.getLast?_map]
  rfl

/-- **Exported variables are set one after another**, whatever stands before them. -/
theorem continueFrom_literals : ∀ {vars : List (String × String)} (done : Nat)
    (env added : Environment),
    (∀ p ∈ vars, p.1 ≠ "") → (∀ p ∈ vars, p.1 ≠ Declaration.optionsKey) →
    Resolution.continueFrom done env added (vars.map fun p => .literal p.1 p.2) =
      .ok ⟨sets vars, replay (sets vars) env, replay (sets vars) added⟩
  | [], _, _, _, _, _ => rfl
  | p :: vars, done, env, added, hne, hopts => by
    obtain ⟨hp, hvars⟩ := List.forall_mem_cons.mp hne
    obtain ⟨hp', hvars'⟩ := List.forall_mem_cons.mp hopts
    rw [List.map_cons, Resolution.continueFrom, Declaration.command_literal hp hp']
    simp only
    rw [continueFrom_literals (done + 1) _ _ hvars hvars']
    rfl

/-- **One that is called `opts` ends the resolution**, the first one of that name. -/
theorem continueFrom_optionsKey : ∀ {vars : List (String × String)} {i : Nat} (done : Nat)
    (env added : Environment), (∀ p ∈ vars, p.1 ≠ "") →
    vars.findIdx? (·.1 = Declaration.optionsKey) = some i →
    Resolution.continueFrom done env added (vars.map fun p => .literal p.1 p.2) =
      .error (Declaration.optionsKeyFault.atPlace (done + i + 1))
  | p :: vars, i, done, env, added, hne, hi => by
    obtain ⟨hp, hvars⟩ := List.forall_mem_cons.mp hne
    rw [List.map_cons, Resolution.continueFrom]
    by_cases h : p.1 = Declaration.optionsKey
    · obtain rfl : i = 0 := by simpa [List.findIdx?_cons, h, eq_comm] using hi
      have hcommand : (Declaration.literal p.1 p.2).command env =
          .error Declaration.optionsKeyFault := by
        rw [Declaration.command, Declaration.keyValue_literal hp, if_pos h]
      rw [hcommand]
    · obtain ⟨j, hj, rfl⟩ :
        ∃ j, vars.findIdx? (·.1 = Declaration.optionsKey) = some j ∧ j + 1 = i := by
        simpa [List.findIdx?_cons, h] using hi
      rw [Declaration.command_literal hp h]
      simp only
      rw [continueFrom_optionsKey (done + 1) _ _ hvars hj, Nat.add_right_comm done 1 j]
      rfl

/-- The declarations of a file can be read iff none of its variables is called `opts`. -/
theorem readable_declarations_iff (content : String) :
    (∀ d ∈ declarations content, d.Readable) ↔
      ∀ p ∈ pairs content, p.1 ≠ Declaration.optionsKey := by
  unfold declarations
  rw [List.forall_mem_map]
  exact forall₂_congr fun p hp => Declaration.readable_literal_iff (key_ne_empty hp)

end Exports

/-! ## Later steps -/

/-- What a later step is run with resolves iff it does without some outputs of an earlier step, and
those outputs can be read. -/
theorem exists_resolve_declarationsOf_iff (scopes : Scopes) (outputs : List Declaration)
    (results : Results) (later : List Scopes.Event) (step : Step) (path : String)
    (source : Environment) :
    (∃ r, resolve (Runner.declarationsOf
        (((scopes.update outputs results).afterAll later).enter step.plan) step path) source =
          .ok r) ↔
      (∀ d ∈ outputs, d.Readable) ∧
      ∃ r, resolve (Runner.declarationsOf
        (((scopes.update [] results).afterAll later).enter step.plan) step path) source =
          .ok r := by
  have hmem := (((scopes.adds_update outputs results).afterAll later).enter step.plan).mem_visible
  unfold resolve Runner.declarationsOf
  rw [Resolution.exists_continueFrom_iff, Resolution.exists_continueFrom_iff]
  simp only [List.mem_append, hmem, or_assoc, or_imp, forall_and]

namespace Exports

/-- **Exported variables survive.** A file gives one declaration for each variable that a step
exports, in the order of its lines; the declaration says just that the variable has its value, taken
as it is, unless the variable is called `opts`. Without such a variable, the declarations resolve
after any list that does, and each exported variable has the value that was exported last; a later
step can be run if it could be run without the file. With such a variable the first one of them is a
fault of the whole list, and no later step can be run. -/
theorem exports_declared (content : String) :
    List.Forall₂ (fun d p =>
        d.keyValue = (if p.1 = Declaration.optionsKey then .error Declaration.optionsKeyFault
          else .ok p) ∧
        d.readOptions = .ok Declaration.literalOptions)
      (declarations content) (pairs content) ∧
    (∀ earlier source r, resolve earlier source = .ok r →
      ((∀ p ∈ pairs content, p.1 ≠ Declaration.optionsKey) →
        ∃ all, resolve (earlier ++ declarations content) source = .ok all ∧
          ∀ key, all.result.get? key =
            ((pairs content).filter (·.1 = key)).getLast?.elim (r.result.get? key)
              fun p => some ⟨key, p.2, false⟩) ∧
      ∀ i, (pairs content).findIdx? (·.1 = Declaration.optionsKey) = some i →
        resolve (earlier ++ declarations content) source =
          .error (Declaration.optionsKeyFault.atPlace (earlier.length + i + 1))) ∧
    ∀ (scopes : Scopes) results later (step : Step) path source,
      (∃ r, resolve (Runner.declarationsOf
        (((scopes.update [] results).afterAll later).enter step.plan) step path) source = .ok r) →
      ((∃ r, resolve (Runner.declarationsOf
        (((scopes.update (declarations content) results).afterAll later).enter step.plan)
        step path) source = .ok r) ↔ ∀ p ∈ pairs content, p.1 ≠ Declaration.optionsKey) := by
  have hne : ∀ p ∈ pairs content, p.1 ≠ "" := fun p hp => key_ne_empty hp
  refine ⟨?_, fun earlier source r hr => ⟨fun hopts => ?_, fun i hi => ?_⟩, ?_⟩
  · unfold declarations
    rw [List.forall₂_map_left_iff, List.forall₂_same]
    exact fun p hp =>
      ⟨Declaration.keyValue_literal (hne p hp) p.2, Declaration.readOptions_literal p.1 p.2⟩
  · refine ⟨⟨r.history ++ sets (pairs content), replay (sets (pairs content)) r.result,
      replay (sets (pairs content)) r.added⟩, ?_, fun key => ?_⟩
    · rw [Resolution.resolve_append_of_eq_ok hr, declarations,
        continueFrom_literals _ _ _ hne hopts]
      rfl
    · show (replay (sets (pairs content)) r.result).get? key = _
      rw [get?_replay, lastChange_sets]
      cases hlast : ((pairs content).filter (·.1 = key)).getLast? with
      | none => rfl
      | some p =>
        have hkey : p.1 = key := by simpa using (List.mem_filter.mp (List.mem_of_getLast? hlast)).2
        rw [← hkey]
        rfl
  · rw [Resolution.resolve_append_of_eq_ok hr, declarations, continueFrom_optionsKey _ _ _ hne hi]
    rfl
  · intro scopes results later step path source hwithout
    rw [exists_resolve_declarationsOf_iff, readable_declarations_iff]
    exact and_iff_left hwithout

/-- A variable is exported twice, and another one with a value that looks like a reference. -/
theorem exports_declared_repeated :
    let content := "export A='1'\nB=\"$A\"\nA=2\n"
    let earlier : List Declaration := [.plain "A" "0", .plain "C" "3"]
    pairs content = [("A", "1"), ("B", "$A"), ("A", "2")] ∧
    ∃ r all, resolve earlier .empty = .ok r ∧
      resolve (earlier ++ declarations content) .empty = .ok all ∧
      all.result.get? "A" = some ⟨"A", "2", false⟩ ∧
      all.result.get? "B" = some ⟨"B", "$A", false⟩ ∧
      all.result.get? "C" = r.result.get? "C" := by
  intro content earlier
  have hpairs : pairs content = [("A", "1"), ("B", "$A"), ("A", "2")] := by decide +kernel
  have hopts : ∀ p ∈ pairs content, p.1 ≠ Declaration.optionsKey := by
    rw [hpairs]
    decide
  have hearlier : (resolve earlier .empty).toOption.isSome = true := by decide +kernel
  obtain ⟨r, hr⟩ := Option.isSome_iff_exists.mp hearlier
  have hr := eq_ok_of_toOption hr
  obtain ⟨all, hall, hlast⟩ := ((exports_declared content).2.1 earlier .empty r hr).1 hopts
  rw [hpairs] at hlast
  exact ⟨hpairs, r, all, hr, hall, hlast "A", hlast "B", hlast "C"⟩

/-- **An exported variable called `opts` is lost**, and no step can be run after it. -/
theorem exports_lose_opts :
    let content := "opts=1"
    let scopes := Scopes.start [] [] [] "wf" "Workflow" []
    let step : Step := { title := "next", program := "next", plan := {} }
    pairs content = [("opts", "1")] ∧
    (∀ d ∈ declarations content, ∀ p, d.keyValue ≠ .ok p) ∧
    (∃ r, resolve [] .empty = .ok r) ∧
      (¬ ∃ r, resolve ([] ++ declarations content) .empty = .ok r) ∧
    (∃ r, resolve (Runner.declarationsOf
      ((scopes.update [] { workflow := "wf" }).enter step.plan) step "exports") .empty = .ok r) ∧
    ¬ ∃ r, resolve (Runner.declarationsOf
      ((scopes.update (declarations content) { workflow := "wf" }).enter step.plan)
      step "exports") .empty = .ok r := by
  intro content scopes step
  have hpairs : pairs content = [("opts", "1")] := by decide +kernel
  have hdeclarations : declarations content = [.literal "opts" "1"] := by
    rw [declarations, hpairs]
    rfl
  have hnot : ¬ ∀ d ∈ declarations content, d.Readable := by
    rw [readable_declarations_iff, hpairs]
    decide
  refine ⟨hpairs, ?_, ⟨_, rfl⟩, fun hr => hnot (Resolution.exists_continueFrom_iff.mp hr), ?_,
    fun hr => ?_⟩
  · rw [hdeclarations, List.forall_mem_singleton]
    intro p
    rw [Declaration.keyValue_literal (by decide),
      if_pos (show "opts" = Declaration.optionsKey from rfl)]
    exact nofun
  · exact ⟨_, rfl⟩
  · exact hnot ((exists_resolve_declarationsOf_iff scopes _ _ [] step "exports" .empty).mp hr).1

end Exports

end Stepwise
