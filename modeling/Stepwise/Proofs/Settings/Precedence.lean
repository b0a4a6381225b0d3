import Stepwise.Proofs.Settings.Overrides
import Stepwise.Proofs.Yaml.Records

/-!
# Where settings come from

The settings of a run are made in three layers: a file, the variables that override it, and the
flags of the command. Each setting has its own way through them.

* `Settings.Written`: the settings that a text holds, field by field; a field that is not written
  has its default.
* `Settings.written_of_ofText`: **the settings of a text** are those, and their ticks take time.
* `CommandLine.ExecRequest.settings_eq_ok`: the three layers of a command.
* `CommandLine.ExecRequest.settings_by_precedence`: **each setting comes from the first layer that
  gives it.**
-/

namespace Stepwise

namespace Settings

open Yaml

/-! ## The file -/

/-- The settings that the fields of a record hold; each has its type and its default. -/
structure FromFields (doc : Document) (field : String → Option Node) (s : Settings) : Prop where
  filtering : FieldGives doc (.optional .switch) none (field "secret_filtering") s.filtering
  noOutput : FieldGives doc (.optional .count) none (field "no_output_timeout_secs")
    s.noOutputSeconds
  timeout : FieldGives doc (.optional .count) none (field "timeout_secs") s.timeoutSeconds
  tick : FieldGives doc .count 30 (field "tick_interval_secs") s.tickSeconds
  grace : FieldGives doc .count 5 (field "kill_grace_period_secs") s.graceSeconds
  envstore : FieldGives doc (.optional .text) none (field "envstore_path") s.envstorePath
  formattedOutput :
    FieldGives doc (.optional .text) none (field "formatted_output_path") s.formattedOutputPath
  exports : FieldGives doc (.optional .text) none (field "output_env_dir") s.exportDirectory
  cleared : FieldGives doc (.optional .text) none (field "envfile_path") s.clearedPath

/-- The settings that a text holds: the defaults if it is blank, and otherwise those of its
document's fields. -/
inductive Written : String → Settings → Prop
  | blank {text : String} (h : Text.isBlankText text = true) : Written text {}
  | document {text : String} {doc : Document} {root : Node} {field : String → Option Node}
      {s : Settings} (hdoc : Document.ofText text = .ok doc)
        (hroot : Reads doc (Reader.follow doc.root) root)
      (hfields : HasFields doc fieldNames root field) (h : FromFields doc field s) : Written text s

theorem fromFields_of_reads {doc : Document} {s : Settings}
    (h : Reads doc (reader Reader.maxDepth doc.root) s) :
    ∃ root field, Reads doc (Reader.follow doc.root) root ∧ HasFields doc fieldNames root field ∧
      FromFields doc field s := by
  obtain ⟨root, field, d, hroot, hfields, h⟩ := h.of_record
  obtain ⟨filtering, hfiltering, h⟩ := h.of_bind
  obtain ⟨noOutput, hnoOutput, h⟩ := h.of_bind
  obtain ⟨timeout, htimeout, h⟩ := h.of_bind
  obtain ⟨tick, htick, h⟩ := h.of_bind
  obtain ⟨grace, hgrace, h⟩ := h.of_bind
  obtain ⟨envstore, henvstore, h⟩ := h.of_bind
  obtain ⟨formattedOutput, hformattedOutput, h⟩ := h.of_bind
  obtain ⟨exports, hexports, h⟩ := h.of_bind
  obtain ⟨cleared, hcleared, h⟩ := h.of_bind
  obtain rfl := h.eq_of_pure
  exact ⟨root, field, hroot, hfields, hfiltering.fieldGives, hnoOutput.fieldGives,
    htimeout.fieldGives, htick.fieldGives, hgrace.fieldGives, henvstore.fieldGives,
      hformattedOutput.fieldGives,
    hexports.fieldGives, hcleared.fieldGives⟩

theorem validate_eq_ok {s t : Settings} : s.validate = .ok t ↔ t = s ∧ 0 < s.tickSeconds := by
  unfold validate
  split
  · rename_i hzero
    exact ⟨nofun, fun h => absurd h.2 (by omega)⟩
  · rename_i hne
    exact ⟨fun h => ⟨(Except.ok.inj h).symm, by omega⟩, fun h => by rw [h.1]⟩

/-- **The settings of a text** are those that it holds, and their ticks take time. -/
theorem written_of_ofText {text : String} {s : Settings} (h : ofText text = .ok s) :
    Written text s ∧ 0 < s.tickSeconds := by
  unfold ofText Reader.runOrDefault at h
  by_cases hblank : Text.isBlankText text = true
  · rw [if_pos hblank] at h
    obtain ⟨rfl, hticks⟩ := validate_eq_ok.mp h
    exact ⟨.blank hblank, hticks⟩
  · rw [if_neg hblank] at h
    cases hrun : reader.run text with
    | error e => simp [hrun] at h
    | ok file =>
      rw [hrun] at h
      obtain ⟨rfl, hticks⟩ := validate_eq_ok.mp h
      obtain ⟨doc, hdoc, hreads⟩ := exists_reads_of_run hrun
      obtain ⟨root, field, hroot, hfields, hfrom⟩ := fromFields_of_reads hreads
      exact ⟨.document hdoc hroot hfields hfrom, hticks⟩

end Settings

namespace CommandLine.ExecRequest

section

variable {r : ExecRequest} {read : String → FileRead} {lookup : String → Option String}
  {file s : Settings}

/-! ## The layers -/

/-- The settings below those of variables and flags are the defaults, or those of the text of a
file. -/
theorem fileSettings_eq_ok : r.fileSettings read = .ok file ↔
    (r.options.settings = none ∧ file = {}) ∨
    ∃ path text, r.options.settings = some path ∧ (read path).text = .ok text ∧
      Settings.ofText text = .ok file := by
  unfold fileSettings Settings.load
  cases r.options.settings with
  | none => simp [eq_comm]
  | some path =>
    cases htext : (read path).text with
    | error e => simp [htext]
    | ok text => simp [htext, mapError_eq_ok]

theorem tickSeconds_pos (h : r.fileSettings read = .ok file) : 0 < file.tickSeconds := by
  obtain ⟨-, rfl⟩ | ⟨_, _, -, -, htext⟩ := fileSettings_eq_ok.mp h
  · decide
  · exact (Settings.written_of_ofText htext).2

/-- **The settings of a command** are those of its file, then of the variables, then of its
flags. -/
theorem settings_eq_ok : r.settings lookup read = .ok s ↔
    ∃ file, r.fileSettings read = .ok file ∧ ∃ o : Settings.Overrides, o.Given lookup ∧
      s = (file.overriddenBy o).withFlags r.options.flags := by
  refine bind_eq_ok.trans (exists_congr fun file => and_congr_right fun _ => ?_)
  obtain ⟨⟨after, fault⟩, hoverride⟩ : ∃ result, file.override lookup = result := ⟨_, rfl⟩
  rw [hoverride]
  cases fault with
  | none =>
    obtain ⟨o, hgiven, rfl⟩ := Settings.override_eq_ok.mp hoverride
    constructor
    · exact fun h => ⟨o, hgiven, (Except.ok.inj h).symm⟩
    · rintro ⟨o', hgiven', rfl⟩
      have hsame := hoverride.symm.trans (Settings.override_eq_ok.mpr ⟨o', hgiven', rfl⟩)
      rw [(Prod.mk.inj hsame).1]
      rfl
  | some fault =>
    refine ⟨nofun, ?_⟩
    rintro ⟨o, hgiven, -⟩
    cases hoverride.symm.trans (Settings.override_eq_ok.mpr ⟨o, hgiven, rfl⟩)

end

/-! ## Precedence -/

/-- **Each setting comes from the first layer that gives it.** A command has settings iff its file
has some and each override is absent, empty or readable. The switch for hiding secrets and the time
without output come from the flags, else the variables, else the file; the time of a step from the
flags, else the file; the path of cleared variables from the variables, else the file; all others
from the file. The file gives the defaults if there is none, and otherwise what is written in it.
Ticks always take time. The same overrides again change nothing. -/
theorem settings_by_precedence (r : ExecRequest) (lookup : String → Option String)
    (read : String → FileRead) :
    (∀ s, r.settings lookup read = .ok s ↔
      ∃ file, r.fileSettings read = .ok file ∧ ∃ o : Settings.Overrides, o.Given lookup ∧
        s = { filtering := r.options.flags.filtering.or (o.filtering.or file.filtering)
              noOutputSeconds :=
                r.options.flags.noOutputSeconds.or (o.noOutputSeconds.or file.noOutputSeconds)
              timeoutSeconds := r.options.flags.timeoutSeconds.or file.timeoutSeconds
              tickSeconds := file.tickSeconds
              graceSeconds := file.graceSeconds
              envstorePath := file.envstorePath
              formattedOutputPath := file.formattedOutputPath
              exportDirectory := file.exportDirectory
              clearedPath := o.clearedPath.or file.clearedPath }) ∧
    (∀ file, r.fileSettings read = .ok file ↔
      (r.options.settings = none ∧ file = {}) ∨
      ∃ path text, r.options.settings = some path ∧ (read path).text = .ok text ∧
        Settings.ofText text = .ok file) ∧
    (∀ text file, Settings.ofText text = .ok file → Settings.Written text file) ∧
    (∀ s, r.settings lookup read = .ok s → 0 < s.tickSeconds) ∧
    ∀ s after, Settings.override s lookup = (after, none) →
      after.override lookup = (after, none) := by
  refine ⟨fun _ => settings_eq_ok, fun _ => fileSettings_eq_ok,
    fun _ _ htext => (Settings.written_of_ofText htext).1, fun s h => ?_,
    fun _ _ h => Settings.override_again h⟩
  obtain ⟨file, hfile, o, -, rfl⟩ := settings_eq_ok.mp h
  exact (tickSeconds_pos hfile : 0 < file.tickSeconds)

/-- An empty variable leaves the file's switch to the flag, and the variable for the time without
output comes before the file. -/
theorem settings_by_precedence_layered :
    let text := "secret_filtering: true\nno_output_timeout_secs: 600\ntick_interval_secs: 20\n"
    let r : ExecRequest :=
      ⟨{ settings := some "s.yml", flags := { filtering := some false } }, "make", []⟩
    let lookup := fun key => [(filteringKey, ""), (Settings.noOutputKey, "300")].lookup key
    let file : Settings :=
      { filtering := some true, noOutputSeconds := some 600, tickSeconds := 20 }
    let after : Settings := { file with noOutputSeconds := some 300 }
    let s : Settings := { after with filtering := some false }
    r.settings lookup (fun _ => .ok (Utf8.encode text)) = .ok s ∧ Settings.Written text file ∧
    0 < s.tickSeconds ∧ file.override lookup = (after, none) ∧
      after.override lookup = (after, none) := by
  intro text r lookup file after s
  obtain ⟨hsettings, hfile, hwritten, htick, hagain⟩ :=
    settings_by_precedence r lookup fun _ => .ok (Utf8.encode text)
  have htext : Settings.ofText text = .ok file := eq_ok_of_toOption (by decide +kernel)
  have hread : FileRead.text (.ok (Utf8.encode text)) = .ok text :=
    eq_ok_of_toOption (by decide +kernel)
  have hgiven : Settings.Overrides.Given lookup ⟨none, some 300, none⟩ :=
    ⟨.empty, .value (by decide) (by decide +kernel), .absent⟩
  have hs := (hsettings s).mpr
    ⟨file, (hfile file).mpr (Or.inr ⟨"s.yml", text, rfl, hread, htext⟩), _, hgiven, rfl⟩
  have hafter : file.override lookup = (after, none) := by decide +kernel
  exact ⟨hs, hwritten text file htext, htick s hs, hafter, hagain file after hafter⟩

end CommandLine.ExecRequest

end Stepwise
