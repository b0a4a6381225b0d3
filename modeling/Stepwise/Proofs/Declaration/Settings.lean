import Mathlib.Data.List.Perm.Basic
import Stepwise.Declaration.Options
import Stepwise.Proofs.Success

/-!
# Options, one setting at a time

Options are known by the settings that they give. A list of settings that names no option twice
makes options that give these settings and no others, in whatever order they stand; and options are
made anew from the settings that are written for them.

* `Setting.name`: the name of a setting's option. `Setting.name_of_read`: reading gives a setting of
  that name.
* `Options.Gives`: what options say of one setting. Options that give the same settings are the same
  (`ext_gives`).
* `Options.gives_set`: a setting takes the place of an earlier one of its name, and of no other.
* `Options.ofSettings_perm`: **the order of settings does not matter** if no option is named twice.
* `Options.ofSettings_settings`: **options are what their settings make**.
-/

namespace Stepwise

/-! ## Names -/

theorem TextOption.find?_name (o : TextOption) :
    TextOption.all.find? (·.name = o.name) = some o := by
  cases o <;> rfl

theorem FlagOption.find?_name (o : FlagOption) :
    FlagOption.all.find? (·.name = o.name) = some o := by
  cases o <;> rfl

theorem TextOption.find?_flagName (o : FlagOption) :
    TextOption.all.find? (·.name = o.name) = none := by
  cases o <;> rfl

theorem TextOption.name_ne_choicesName (o : TextOption) : o.name ≠ choicesName := by
  cases o <;> decide

theorem FlagOption.name_ne_choicesName (o : FlagOption) : o.name ≠ choicesName := by
  cases o <;> decide

theorem TextOption.mem_all (o : TextOption) : o ∈ TextOption.all := by
  cases o <;> decide

theorem FlagOption.mem_all (o : FlagOption) : o ∈ FlagOption.all := by
  cases o <;> decide

/-- No two options have one name. -/
theorem Options.nodup_names : Options.names.Nodup := by
  decide

namespace Setting

/-- The name of a setting's option. -/
def name : Setting → String
  | .text o _ => o.name
  | .choices _ => choicesName
  | .flag o _ => o.name

/-! ## Reading a setting -/

@[simp]
theorem read_text (o : TextOption) (value : Value) :
    read o.name value = (readText value).map (.text o) := by
  rw [read, TextOption.find?_name]

@[simp]
theorem read_flag (o : FlagOption) (value : Value) :
    read o.name value = (readFlag value).map (.flag o) := by
  rw [read, TextOption.find?_flagName, FlagOption.find?_name]

@[simp]
theorem read_choices (value : Value) :
    read choicesName value = (readTexts value).map .choices := rfl

/-- A name that is read is that of an option. -/
theorem name_cases {n : String} {value : Value} {s : Setting} (h : read n value = .ok s) :
    (∃ o : TextOption, n = o.name) ∨ n = choicesName ∨ ∃ o : FlagOption, n = o.name := by
  unfold read at h
  split at h
  · rename_i o ho
    exact Or.inl ⟨o, by simpa [eq_comm] using List.find?_some ho⟩
  · rename_i o _ ho
    exact Or.inr (Or.inr ⟨o, by simpa [eq_comm] using List.find?_some ho⟩)
  · split at h
    · rename_i hchoices
      exact Or.inr (Or.inl hchoices)
    · cases h

/-- Reading gives a setting of the name that was read. -/
theorem name_of_read {n : String} {value : Value} {s : Setting} (h : read n value = .ok s) :
    s.name = n := by
  obtain ⟨o, rfl⟩ | rfl | ⟨o, rfl⟩ := name_cases h
  · rw [read_text] at h
    obtain ⟨_, -, rfl⟩ := map_eq_ok.mp h
    rfl
  · rw [read_choices] at h
    obtain ⟨_, -, rfl⟩ := map_eq_ok.mp h
    rfl
  · rw [read_flag] at h
    obtain ⟨_, -, rfl⟩ := map_eq_ok.mp h
    rfl

/-- Only choices have their name. -/
theorem eq_choices_of_name {s : Setting} (h : s.name = choicesName) :
    ∃ values, s = .choices values := by
  cases s with
  | text o v => exact absurd h o.name_ne_choicesName
  | choices values => exact ⟨values, rfl⟩
  | flag o b => exact absurd h o.name_ne_choicesName

end Setting

namespace Options

/-! ## Options by their settings -/

/-- The options give an option this value. Options that give no choices give the empty list. -/
def Gives (o : Options) : Setting → Prop
  | .text t v => o.textOf t = some v
  | .choices values => o.choices = values
  | .flag f b => o.flagOf f = some b

/-- Options that give the same settings are the same. -/
theorem ext_gives {a b : Options} (h : ∀ s, a.Gives s ↔ b.Gives s) : a = b := by
  have htext (t : TextOption) : a.textOf t = b.textOf t := Option.ext fun v => h (.text t v)
  have hflag (f : FlagOption) : a.flagOf f = b.flagOf f := Option.ext fun v => h (.flag f v)
  have hchoices : a.choices = b.choices := (h (.choices b.choices)).mpr rfl
  obtain ⟨⟩ := a
  obtain ⟨⟩ := b
  rw [Options.mk.injEq]
  exact ⟨htext .title, htext .description, htext .summary, htext .category, hchoices,
    hflag .isRequired, hflag .isExpand, hflag .isDontChangeValue, hflag .isTemplate,
    hflag .skipIfEmpty, hflag .unset, hflag .isSensitive⟩

theorem gives_default {s : Setting} : Gives {} s ↔ s = .choices [] := by
  cases s with
  | text t v => cases t <;> simp [Gives, textOf]
  | choices values => simp [Gives, eq_comm]
  | flag f b => cases f <;> simp [Gives, flagOf]

/-- **A setting takes the place of the one of its name**, and of no other. -/
theorem gives_set {o : Options} {s t : Setting} :
    (o.set s).Gives t ↔ if s.name = t.name then s = t else o.Gives t := by
  cases s with
  | text u v =>
    cases t with
    | text u' v' =>
      cases u <;> cases u' <;> simp [set, Gives, textOf, Setting.name, TextOption.name]
    | choices values => cases u <;> simp [set, Gives, Setting.name, TextOption.name, choicesName]
    | flag f b =>
      cases u <;> cases f <;>
        simp [set, Gives, flagOf, Setting.name, TextOption.name, FlagOption.name]
  | choices values =>
    cases t with
    | text u v => cases u <;> simp [set, Gives, textOf, Setting.name, TextOption.name, choicesName]
    | choices values' => simp [set, Gives, Setting.name]
    | flag f b => cases f <;> simp [set, Gives, flagOf, Setting.name, FlagOption.name, choicesName]
  | flag f b =>
    cases t with
    | text u v =>
      cases f <;> cases u <;>
        simp [set, Gives, textOf, Setting.name, TextOption.name, FlagOption.name]
    | choices values => cases f <;> simp [set, Gives, Setting.name, FlagOption.name, choicesName]
    | flag f' b' =>
      cases f <;> cases f' <;> simp [set, Gives, flagOf, Setting.name, FlagOption.name]

/-- Settings of different names are all given; the others are as before. -/
theorem gives_foldl_set {settings : List Setting} {t : Setting}
    (h : (settings.map Setting.name).Nodup) {o : Options} :
    (settings.foldl set o).Gives t ↔
      t ∈ settings ∨ t.name ∉ settings.map Setting.name ∧ o.Gives t := by
  induction settings generalizing o with
  | nil => simp
  | cons s settings ih =>
    obtain ⟨hs, hsettings⟩ := List.nodup_cons.mp h
    rw [List.foldl_cons, ih hsettings, gives_set, List.map_cons, List.mem_cons, List.mem_cons]
    by_cases hname : s.name = t.name
    · -- no later setting has the name of `s`, so `s` stays
      have hnot : t ∉ settings := fun hmem => hs (hname ▸ List.mem_map_of_mem hmem)
      simp only [hname ▸ hs, hname, hnot, if_true, not_false_eq_true, true_and, false_or,
        not_true_eq_false, false_and, or_false, eq_comm]
    · have hne : t ≠ s := fun heq => hname (heq ▸ rfl)
      simp only [if_neg hname, hne, Ne.symm hname, false_or]

/-- What settings of different names make: they are given, and no choices if none are. -/
theorem gives_ofSettings {settings : List Setting} {t : Setting}
    (h : (settings.map Setting.name).Nodup) :
    (ofSettings settings).Gives t ↔
      t ∈ settings ∨ t.name ∉ settings.map Setting.name ∧ t = .choices [] := by
  rw [ofSettings, gives_foldl_set h, gives_default]

/-- **The order of settings does not matter** if no option is named twice. -/
theorem ofSettings_perm {xs ys : List Setting} (hperm : xs.Perm ys)
    (h : (xs.map Setting.name).Nodup) : ofSettings xs = ofSettings ys := by
  have hnames := hperm.map Setting.name
  refine ext_gives fun s => ?_
  rw [gives_ofSettings h, gives_ofSettings (hnames.nodup_iff.mp h), hperm.mem_iff, hnames.mem_iff]

/-! ## The settings that are written -/

/-- Every setting that options give is written, but for an empty list of choices. -/
theorem mem_settings {o : Options} {s : Setting} :
    s ∈ o.settings ↔ o.Gives s ∧ s ≠ .choices [] := by
  have hchoices : (s ∈ if o.choices.isEmpty then [] else [Setting.choices o.choices]) ↔
      s = .choices o.choices ∧ s ≠ .choices [] := by
    cases hempty : o.choices.isEmpty with
    | true =>
      rw [List.isEmpty_iff.mp hempty]
      simp
    | false =>
      have hne : o.choices ≠ [] := fun heq => by simp [heq] at hempty
      rw [if_neg Bool.false_ne_true, List.mem_singleton]
      refine (and_iff_left_of_imp ?_).symm
      rintro rfl
      simpa using hne
  unfold settings
  rw [List.mem_append, List.mem_append, hchoices, List.mem_filterMap, List.mem_filterMap]
  cases s with
  | text t v => simp [Gives, TextOption.mem_all]
  | choices values =>
    simp only [Option.map_eq_some_iff, reduceCtorEq, and_false, exists_false, false_or, or_false,
      Setting.choices.injEq, Gives]
    exact and_congr_left' eq_comm
  | flag f b => simp [Gives, FlagOption.mem_all]

theorem sublist_map_filterMap {α β γ : Type} {f : α → Option β} {g : β → γ} {k : α → γ}
    (h : ∀ a b, f a = some b → g b = k a) (xs : List α) :
    ((xs.filterMap f).map g).Sublist (xs.map k) := by
  induction xs with
  | nil => exact .slnil
  | cons x xs ih =>
    rw [List.filterMap_cons, List.map_cons]
    cases hx : f x with
    | none => exact ih.cons _
    | some b =>
      rw [← h x b hx]
      exact ih.cons_cons _

/-- Settings are written in the order of the options. -/
theorem names_settings_sublist (o : Options) :
    (o.settings.map Setting.name).Sublist names := by
  unfold settings names
  rw [List.map_append, List.map_append]
  refine ((sublist_map_filterMap ?_ _).append ?_).append (sublist_map_filterMap ?_ _)
  · intro t s hs
    obtain ⟨v, -, rfl⟩ := Option.map_eq_some_iff.mp hs
    rfl
  · split
    · exact List.nil_sublist _
    · exact List.Sublist.refl _
  · intro f s hs
    obtain ⟨b, -, rfl⟩ := Option.map_eq_some_iff.mp hs
    rfl

theorem nodup_names_settings (o : Options) : (o.settings.map Setting.name).Nodup :=
  nodup_names.sublist (names_settings_sublist o)

/-- Choices are written unless there are none. -/
theorem choicesName_notMem_iff {o : Options} :
    choicesName ∉ o.settings.map Setting.name ↔ o.choices = [] := by
  constructor
  · intro hnot
    refine Decidable.byContradiction fun hne => hnot ?_
    exact List.mem_map.mpr ⟨.choices o.choices, mem_settings.mpr ⟨rfl, by simpa using hne⟩, rfl⟩
  · intro hempty hmem
    obtain ⟨s, hs, hname⟩ := List.mem_map.mp hmem
    obtain ⟨hgives, hne⟩ := mem_settings.mp hs
    obtain ⟨values, rfl⟩ := Setting.eq_choices_of_name hname
    exact hne (by rw [← hgives, hempty])

/-- **Options are what their settings make.** -/
theorem ofSettings_settings (o : Options) : ofSettings o.settings = o := by
  refine ext_gives fun s => ?_
  rw [gives_ofSettings (nodup_names_settings o), mem_settings]
  by_cases hs : s = .choices []
  · subst hs
    show _ ∨ choicesName ∉ o.settings.map Setting.name ∧ _ ↔ o.choices = []
    rw [choicesName_notMem_iff]
    simp
  · simp [hs]

end Options

end Stepwise
