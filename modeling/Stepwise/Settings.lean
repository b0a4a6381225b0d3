import Stepwise.ClearedVariables
import Stepwise.Scopes.Announcements
import Stepwise.Secrets.Set
import Stepwise.Silence.Duration

/-!
# Settings

Settings (`RunnerSettings`) come from a file, then from variables that override it, then from the
flags of a command.

* `Settings.ofText` (`parse`): the settings of a file's text. The interval between ticks has to be
  positive.
* `Settings.override` (`apply_env`): the settings after the overrides. Overrides are looked at one
  after the other, and those before a faulty one are kept.
* `Settings.withFlags`: the settings after the flags.
-/

namespace Stepwise

/-- The settings of a run. -/
structure Settings where
  filtering : Option Bool := none
  noOutputSeconds : Option Nat := none
  timeoutSeconds : Option Nat := none
  tickSeconds : Nat := 30
  graceSeconds : Nat := 5
  envstorePath : Option String := none
  formattedOutputPath : Option String := none
  /-- Where the files are made in which steps export variables. -/
  exportDirectory : Option String := none
  /-- The file of cleared variables. -/
  clearedPath : Option String := none
  deriving DecidableEq, Inhabited

namespace Settings

open Yaml

/-- The variable that overrides the time without output. -/
def noOutputKey : String := "RUNWAY_NO_OUTPUT_TIMEOUT"

/-! ## What the settings mean -/

/-- A limit in seconds; 0 is no limit. -/
def limit (seconds : Option Nat) : Option Duration :=
  (seconds.filter (0 < ·)).map Duration.ofSeconds

/-- How long a step may be silent. -/
def noOutputTimeout (s : Settings) : Option Duration := limit s.noOutputSeconds

/-- How long a step may run. -/
def timeout (s : Settings) : Option Duration := limit s.timeoutSeconds

/-- The time between two ticks of a step's detector. -/
def tickInterval (s : Settings) : Duration := .ofSeconds s.tickSeconds

/-- The time that a step has to end by itself once it is told to. -/
def gracePeriod (s : Settings) : Duration := .ofSeconds s.graceSeconds

/-- The variables that tell steps about these settings. -/
def declarations (s : Settings) : List Declaration :=
  (s.envstorePath.map (Declaration.plain Announcements.envstoreKey)).toList ++
    (s.formattedOutputPath.map (Declaration.plain Announcements.formattedOutputKey)).toList

/-- The settings, unless there is no time between ticks. -/
def validate (s : Settings) : Except SettingsFault Settings :=
  if s.tickSeconds = 0 then .error .zeroTickInterval else .ok s

/-! ## The file -/

/-- The names of the fields, in order. -/
def fieldNames : List String :=
  ["secret_filtering", "no_output_timeout_secs", "timeout_secs", "tick_interval_secs",
   "kill_grace_period_secs", "envstore_path", "formatted_output_path", "output_env_dir",
   "envfile_path"]

/-- The fields that are written; a field without a value is left out. -/
def writtenFields (s : Settings) : List String :=
  let present := [s.filtering.isSome, s.noOutputSeconds.isSome, s.timeoutSeconds.isSome, true, true,
    s.envstorePath.isSome, s.formattedOutputPath.isSome, s.exportDirectory.isSome,
    s.clearedPath.isSome]
  ((fieldNames.zip present).filter (·.2)).map (·.1)

/-- Settings, each with its default. -/
def reader : Reader Settings :=
  Reader.record fieldNames fun depth field => do
    let switch name := Reader.field (.optional .switch) none depth (field name)
    let count name := Reader.field (.optional .count) none depth (field name)
    let path name := Reader.field (.optional .text) none depth (field name)
    return {
      filtering := ← switch "secret_filtering"
      noOutputSeconds := ← count "no_output_timeout_secs"
      timeoutSeconds := ← count "timeout_secs"
      tickSeconds := ← Reader.field .count 30 depth (field "tick_interval_secs")
      graceSeconds := ← Reader.field .count 5 depth (field "kill_grace_period_secs")
      envstorePath := ← path "envstore_path"
      formattedOutputPath := ← path "formatted_output_path"
      exportDirectory := ← path "output_env_dir"
      clearedPath := ← path "envfile_path" }

/-- The settings of a text. -/
def ofText (text : String) : Except SettingsFault Settings :=
  match reader.runOrDefault {} text with
  | .error e => .error (.file (.document e))
  | .ok s => s.validate

/-- The settings of the file at a path. -/
def load (path : String) (file : FileRead) : Except Error Settings :=
  match file.text with
  | .error e => .error (.settings (some path) (.file (.system e)))
  | .ok text => (ofText text).mapError (.settings (some path))

/-! ## Overrides -/

/-- The number of seconds that a text gives. -/
def secondsOfText? (text : String) : Option Nat :=
  let digits := match Text.trim text.toList with
    | '+' :: cs => cs
    | cs => cs
  let n := digits.foldl (fun n c => 10 * n + (c.toNat - '0'.toNat)) 0
  if digits.isEmpty || !digits.all Char.isDigit || Nat.pow 2 64 ≤ n then none else some n

/-- The switch after its override. -/
def overrideFiltering (s : Settings) (value : String) : Except SettingsFault Settings :=
  if value = "true" then .ok { s with filtering := some true }
  else if value = "false" then .ok { s with filtering := some false }
  else if value = "" then .ok s
  else .error (.notSwitch value)

/-- The time without output after its override. -/
def overrideNoOutput (s : Settings) (value : String) : Except SettingsFault Settings :=
  if value = "" then .ok s
  else match secondsOfText? value with
    | some n => .ok { s with noOutputSeconds := some n }
    | none => .error (.notSeconds value)

/-- The path of cleared variables after its override. -/
def overrideCleared (s : Settings) (value : String) : Except SettingsFault Settings :=
  if value = "" then .ok s else .ok { s with clearedPath := some value }

/-- The overrides, each with the variable that holds it. -/
def overrides : List (String × (Settings → String → Except SettingsFault Settings)) :=
  [(filteringKey, overrideFiltering), (noOutputKey, overrideNoOutput),
   (ClearedVariables.pathKey, overrideCleared)]

/-- Apply overrides until one is faulty. -/
def applyOverrides (lookup : String → Option String) (s : Settings) :
    List (String × (Settings → String → Except SettingsFault Settings)) →
      Settings × Option SettingsFault
  | [] => (s, none)
  | (key, change) :: rest => match lookup key with
    | none => applyOverrides lookup s rest
    | some value => match change s value with
      | .ok s => applyOverrides lookup s rest
      | .error e => (s, some e)

/-- The settings after the overrides that a look-up of variables gives, and the fault that ended
them. -/
def override (s : Settings) (lookup : String → Option String) : Settings × Option SettingsFault :=
  applyOverrides lookup s overrides

/-! ## Flags -/

/-- The flags of a command that change settings. -/
structure Flags where
  noOutputSeconds : Option Nat := none
  timeoutSeconds : Option Nat := none
  filtering : Option Bool := none
  deriving DecidableEq, Inhabited

/-- The settings after the flags. -/
def withFlags (s : Settings) (flags : Flags) : Settings :=
  { s with
    noOutputSeconds := flags.noOutputSeconds.or s.noOutputSeconds
    timeoutSeconds := flags.timeoutSeconds.or s.timeoutSeconds
    filtering := flags.filtering.or s.filtering }

end Settings

end Stepwise
