import Stepwise.Commands.Exec
import Stepwise.Proofs.Success

/-!
# Variables that override settings

Three settings can be overridden, each by a variable of its own. A variable that is absent or empty
changes nothing. One whose value cannot be read ends the overrides: what was overridden before it
stands, and what comes after it is not looked at.

* `Gives`, `Refuses`: what a variable holds for an override, or that its value cannot be read.
* `Settings.Override`: how a setting is overridden. `Settings.Override.apply_cons`: **one
  override**, and those after it.
* `Settings.override_eq_ok`: overrides that are all accepted. `Settings.override_again`: doing the
  same again changes nothing.
* `Settings.override_eq_fault`: where overrides end with a fault. `Settings.override_until_fault`:
  **what they have changed by then**, and that a command does not use it.
-/

namespace Stepwise

/-! ## One variable -/

section

variable {α : Type} {read : String → Option α} {held : Option String}

/-- What a variable gives for an override: nothing where it is absent or empty, and otherwise what
its value is read as. -/
inductive Gives (read : String → Option α) : Option String → Option α → Prop
  | absent : Gives read none none
  | empty : Gives read (some "") none
  | value {text : String} {a : α} (hne : text ≠ "") (hread : read text = some a) :
      Gives read (some text) (some a)

/-- A variable holds a value that cannot be read. -/
def Refuses (read : String → Option α) (held : Option String) (text : String) : Prop :=
  held = some text ∧ text ≠ "" ∧ read text = none

theorem Gives.unique {a b : Option α} (ha : Gives read held a) (hb : Gives read held b) :
    a = b := by
  cases ha with
  | absent => cases hb; rfl
  | empty =>
    cases hb with
    | empty => rfl
    | value hne _ => exact absurd rfl hne
  | value hne hread =>
    cases hb with
    | empty => exact absurd rfl hne
    | value _ hread' => exact hread.symm.trans hread'

theorem Gives.not_refuses {a : Option α} (h : Gives read held a) (text : String) :
    ¬ Refuses read held text := by
  rintro ⟨rfl, hne, hread⟩
  cases h with
  | empty => exact hne rfl
  | value _ hread' => exact absurd (hread.symm.trans hread') nofun

end

namespace Settings

open CommandLine (switch?)

/-! ## One override -/

/-- How a setting is overridden. -/
structure Override (α : Type) where
  /-- The variable that overrides it. -/
  key : String
  /-- How the value of the variable is read. -/
  read : String → Option α
  /-- The settings with what was read, if anything was. -/
  put : Settings → Option α → Settings
  /-- The fault of a value that cannot be read. -/
  fault : String → SettingsFault
  put_none : ∀ s, put s none = s

namespace Override

variable {α : Type}

/-- The change that a value makes. -/
def change (o : Override α) (s : Settings) (text : String) : Except SettingsFault Settings :=
  if text = "" then .ok s
  else match o.read text with
    | some a => .ok (o.put s (some a))
    | none => .error (o.fault text)

/-- The switch for hiding secrets. -/
def filtering : Override Bool where
  key := filteringKey
  read := switch?
  put s given := { s with filtering := given.or s.filtering }
  fault := .notSwitch
  put_none _ := rfl

/-- The time without output. -/
def noOutput : Override Nat where
  key := noOutputKey
  read := secondsOfText?
  put s given := { s with noOutputSeconds := given.or s.noOutputSeconds }
  fault := .notSeconds
  put_none _ := rfl

/-- The file of cleared variables. Every text is a path, so this override has no fault of its
own. -/
def cleared : Override String where
  key := ClearedVariables.pathKey
  read := some
  put s given := { s with clearedPath := given.or s.clearedPath }
  fault := .notSeconds
  put_none _ := rfl

theorem overrideFiltering_eq : overrideFiltering = filtering.change := by
  funext s text
  unfold overrideFiltering change filtering switch?
  by_cases htrue : text = "true"
  · subst htrue
    rfl
  by_cases hfalse : text = "false"
  · subst hfalse
    rfl
  simp only [htrue, hfalse, if_false]

theorem overrideNoOutput_eq : overrideNoOutput = noOutput.change := by
  funext s text
  unfold overrideNoOutput change
  cases hread : secondsOfText? text with
  | none => rw [show noOutput.read text = none from hread]; rfl
  | some n => rw [show noOutput.read text = some n from hread]; rfl

theorem overrideCleared_eq : overrideCleared = cleared.change := rfl

/-- **All overrides** are of this kind. -/
theorem overrides_eq : overrides =
    [(filtering.key, filtering.change), (noOutput.key, noOutput.change),
     (cleared.key, cleared.change)] := by
  rw [overrides, overrideFiltering_eq, overrideNoOutput_eq, overrideCleared_eq]
  rfl

theorem apply_nil (lookup : String → Option String) (s : Settings) :
    applyOverrides lookup s [] = (s, none) := rfl

variable (o : Override α) (lookup : String → Option String) (s : Settings)
  (rest : List (String × (Settings → String → Except SettingsFault Settings)))

/-- **One override**: its variable holds a value that cannot be read and ends the overrides, or it
gives something, and those after it go on from there. -/
theorem apply_cons :
    (∃ text, Refuses o.read (lookup o.key) text ∧
      applyOverrides lookup s ((o.key, o.change) :: rest) = (s, some (o.fault text))) ∨
    ∃ given, Gives o.read (lookup o.key) given ∧
      applyOverrides lookup s ((o.key, o.change) :: rest) =
        applyOverrides lookup (o.put s given) rest := by
  rw [applyOverrides]
  cases hheld : lookup o.key with
  | none => exact Or.inr ⟨none, .absent, by rw [o.put_none]⟩
  | some text =>
    by_cases hne : text = ""
    · exact Or.inr ⟨none, hne ▸ .empty, by simp [change, hne, o.put_none]⟩
    · cases hread : o.read text with
      | none => exact Or.inl ⟨text, ⟨rfl, hne, hread⟩, by simp [change, hne, hread]⟩
      | some a => exact Or.inr ⟨some a, .value hne hread, by simp [change, hne, hread]⟩

variable {lookup s rest} {after : Settings}

theorem apply_cons_eq_ok :
    applyOverrides lookup s ((o.key, o.change) :: rest) = (after, none) ↔
      ∃ given, Gives o.read (lookup o.key) given ∧
        applyOverrides lookup (o.put s given) rest = (after, none) := by
  obtain ⟨text, hrefuses, heq⟩ | ⟨given, hgives, heq⟩ := o.apply_cons lookup s rest
  · rw [heq]
    exact ⟨nofun, fun ⟨_, h, _⟩ => absurd hrefuses (h.not_refuses text)⟩
  · rw [heq]
    exact ⟨fun h => ⟨given, hgives, h⟩, fun ⟨_, h, hrest⟩ => hgives.unique h ▸ hrest⟩

theorem apply_cons_eq_fault {fault : SettingsFault} :
    applyOverrides lookup s ((o.key, o.change) :: rest) = (after, some fault) ↔
      (∃ text, Refuses o.read (lookup o.key) text ∧ fault = o.fault text ∧ after = s) ∨
      ∃ given, Gives o.read (lookup o.key) given ∧
        applyOverrides lookup (o.put s given) rest = (after, some fault) := by
  obtain ⟨text, hrefuses, heq⟩ | ⟨given, hgives, heq⟩ := o.apply_cons lookup s rest
  · rw [heq, Prod.mk.injEq, Option.some.injEq]
    constructor
    · rintro ⟨rfl, rfl⟩
      exact Or.inl ⟨text, hrefuses, rfl, rfl⟩
    · rintro (⟨text', hrefuses', rfl, rfl⟩ | ⟨_, h, -⟩)
      · exact ⟨rfl, by rw [Option.some.inj (hrefuses.1.symm.trans hrefuses'.1)]⟩
      · exact absurd hrefuses (h.not_refuses text)
  · rw [heq]
    constructor
    · exact fun h => Or.inr ⟨given, hgives, h⟩
    · rintro (⟨text, hrefuses, -⟩ | ⟨_, h, hrest⟩)
      · exact absurd hrefuses (hgives.not_refuses text)
      · exact hgives.unique h ▸ hrest

end Override

/-! ## All overrides -/

/-- What the variables of all overrides give. -/
structure Overrides where
  filtering : Option Bool
  noOutputSeconds : Option Nat
  clearedPath : Option String

/-- The overrides of a look-up of variables, each of which is absent, empty or readable. -/
structure Overrides.Given (lookup : String → Option String) (o : Overrides) : Prop where
  filtering : Gives switch? (lookup filteringKey) o.filtering
  noOutput : Gives secondsOfText? (lookup noOutputKey) o.noOutputSeconds
  cleared : Gives some (lookup ClearedVariables.pathKey) o.clearedPath

/-- Settings after overrides. -/
def overriddenBy (s : Settings) (o : Overrides) : Settings :=
  { s with
    filtering := o.filtering.or s.filtering
    noOutputSeconds := o.noOutputSeconds.or s.noOutputSeconds
    clearedPath := o.clearedPath.or s.clearedPath }

variable {lookup : String → Option String} {s after : Settings}

/-- **Overrides are accepted** iff each of the variables is absent, empty or readable. -/
theorem override_eq_ok : s.override lookup = (after, none) ↔
    ∃ o : Overrides, o.Given lookup ∧ after = s.overriddenBy o := by
  rw [override, Override.overrides_eq, Override.apply_cons_eq_ok]
  simp only [Override.apply_cons_eq_ok, Override.apply_nil, Prod.mk.injEq, and_true]
  constructor
  · rintro ⟨filtering, hfiltering, noOutput, hnoOutput, cleared, hcleared, rfl⟩
    exact ⟨⟨filtering, noOutput, cleared⟩, ⟨hfiltering, hnoOutput, hcleared⟩, rfl⟩
  · rintro ⟨o, h, rfl⟩
    exact ⟨_, h.filtering, _, h.noOutput, _, h.cleared, rfl⟩

/-- **The same overrides again** change nothing. -/
theorem override_again (h : s.override lookup = (after, none)) :
    after.override lookup = (after, none) := by
  obtain ⟨o, hgiven, rfl⟩ := override_eq_ok.mp h
  refine override_eq_ok.mpr ⟨o, hgiven, ?_⟩
  simp only [overriddenBy, ← Option.or_assoc, Option.or_self]

/-- **Overrides end with a fault** at the switch, which leaves the settings as they were, or at the
time without output, which leaves them with the switch overridden. -/
theorem override_eq_fault {fault : SettingsFault} : s.override lookup = (after, some fault) ↔
    (∃ text, Refuses switch? (lookup filteringKey) text ∧ fault = .notSwitch text ∧ after = s) ∨
    ∃ given text, Gives switch? (lookup filteringKey) given ∧
      Refuses secondsOfText? (lookup noOutputKey) text ∧ fault = .notSeconds text ∧
      after = { s with filtering := given.or s.filtering } := by
  -- the last override has no fault, since every text is a path
  have hpath : ∀ text, ¬ Refuses Override.cleared.read (lookup Override.cleared.key) text :=
    fun text h => absurd h.2.2 nofun
  rw [override, Override.overrides_eq, Override.apply_cons_eq_fault]
  simp only [Override.apply_cons_eq_fault, Override.apply_nil, Prod.mk.injEq, hpath, false_and,
    exists_false, reduceCtorEq, and_false, or_false]
  refine or_congr_right ?_
  constructor
  · rintro ⟨given, hgiven, text, hrefuses, rfl, rfl⟩
    exact ⟨given, text, hgiven, hrefuses, rfl, rfl⟩
  · rintro ⟨given, text, hgiven, hrefuses, rfl, rfl⟩
    exact ⟨given, hgiven, text, hrefuses, rfl, rfl⟩

/-! ## What is left after a fault -/

theorem eq_of_switch? {text : String} {b : Bool} (h : switch? text = some b) :
    text = if b then "true" else "false" := by
  unfold switch? at h
  split at h
  · rename_i htrue
    exact Option.some.inj h ▸ htrue
  · split at h
    · rename_i hfalse
      exact Option.some.inj h ▸ hfalse
    · cases h

/-- **Overrides stop at a fault.** They end with one iff the switch cannot be read, or else the time
without output cannot; the fault tells its value. Then all settings but the switch are what they
were before, and so is the switch, unless it was overridden by `true` or `false` and the fault is
that of the time without output. A command whose overrides end so ends with that fault and uses no
settings. -/
theorem override_until_fault (s : Settings) (lookup : String → Option String) (after : Settings)
    (fault : SettingsFault) :
    (s.override lookup = (after, some fault) ↔
      (∃ text, Refuses switch? (lookup filteringKey) text ∧ fault = .notSwitch text ∧ after = s) ∨
      ∃ given text, Gives switch? (lookup filteringKey) given ∧
        Refuses secondsOfText? (lookup noOutputKey) text ∧ fault = .notSeconds text ∧
        after = { s with filtering := given.or s.filtering }) ∧
    (s.override lookup = (after, some fault) →
      after = { s with filtering := after.filtering } ∧
      (after = s ∨ ∃ b text, lookup filteringKey = some (if b then "true" else "false") ∧
        lookup noOutputKey = some text ∧ fault = .notSeconds text ∧
        after = { s with filtering := some b })) ∧
    ∀ (r : CommandLine.ExecRequest) (read : String → FileRead), r.fileSettings read = .ok s →
      s.override lookup = (after, some fault) →
        r.settings lookup read = .error (.settings none fault) := by
  refine ⟨override_eq_fault, fun h => ?_, fun r read hfile h => ?_⟩
  · obtain ⟨text, -, -, rfl⟩ | ⟨given, text, hgiven, hrefuses, rfl, rfl⟩ := override_eq_fault.mp h
    · exact ⟨rfl, Or.inl rfl⟩
    · refine ⟨rfl, ?_⟩
      generalize hheld : lookup filteringKey = held at hgiven
      cases hgiven with
      | absent | empty => exact Or.inl rfl
      | @value switch b _ hread =>
        exact Or.inr ⟨b, text, by rw [eq_of_switch? hread], hrefuses.1, rfl, rfl⟩
  · simp only [CommandLine.ExecRequest.settings, hfile, bind, Except.bind, h]
    rfl

/-- The switch is overridden before the time without output turns out to be no number. -/
theorem override_until_fault_late :
    let s : Settings := { filtering := some false, noOutputSeconds := some 60 }
    let lookup := fun key => [(filteringKey, "true"), (noOutputKey, "ten")].lookup key
    let after : Settings := { filtering := some true, noOutputSeconds := some 60 }
    s.override lookup = (after, some (.notSeconds "ten")) ∧
    (after = { s with filtering := after.filtering } ∧
      (after = s ∨ ∃ b text, lookup filteringKey = some (if b then "true" else "false") ∧
        lookup noOutputKey = some text ∧ SettingsFault.notSeconds "ten" = .notSeconds text ∧
        after = { s with filtering := some b })) ∧
    (CommandLine.ExecRequest.mk {} "make" []).settings lookup (fun _ => .error .notFound) =
      .error (.settings none (.notSeconds "ten")) := by
  intro s lookup after
  have hfault : s.override lookup = (after, some (.notSeconds "ten")) := by decide +kernel
  have hdefault : ({} : Settings).override lookup =
      ({ filtering := some true }, some (.notSeconds "ten")) := by decide +kernel
  exact ⟨hfault, (override_until_fault s lookup after _).2.1 hfault,
    (override_until_fault {} lookup _ _).2.2 ⟨{}, "make", []⟩ _ rfl hdefault⟩

/-- **What was overridden before a fault is not undone.** -/
theorem override_not_undone :
    let lookup := fun key => [(filteringKey, "true"), (noOutputKey, "ten")].lookup key
    let (after, fault) := ({} : Settings).override lookup
    fault = some (.notSeconds "ten") ∧ after.filtering = some true ∧ after ≠ {} := by
  decide +kernel

end Settings

end Stepwise
