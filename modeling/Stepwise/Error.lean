import Stepwise.Declaration.Options
import Stepwise.Yaml.Fault

/-!
# Errors

An error (`RunwayError`) says what failed and why. `Error.report` sorts it under one of eight
headings, and `Report.text` is the wording of each heading. A document that is not YAML is described
by a function that the caller gives, because only that part of a message depends on how YAML is
read.
-/

namespace Stepwise

/-- Why the system refuses to do something with a file. -/
inductive SystemFault where
  | notFound
  | denied
  | exists
  | notDirectory
  | isDirectory
  | invalidName
  | nameTooLong
  | notEmpty
  | notUtf8
  | badDescriptor
  | brokenPipe
  | badProgram
  deriving DecidableEq, Inhabited

/-- The number of a system fault, if the system gives it one. -/
def SystemFault.number? : SystemFault → Option Nat
  | .notFound => some 2
  | .denied => some 13
  | .exists => some 17
  | .notDirectory => some 20
  | .isDirectory => some 21
  | .nameTooLong => some 36
  | .notEmpty => some 39
  | .badDescriptor => some 9
  | .brokenPipe => some 32
  | .badProgram => some 8
  | .invalidName | .notUtf8 => none

/-- A system fault in words. -/
def SystemFault.words : SystemFault → String
  | .notFound => "No such file or directory"
  | .denied => "Permission denied"
  | .exists => "File exists"
  | .notDirectory => "Not a directory"
  | .isDirectory => "Is a directory"
  | .invalidName => "file name contained an unexpected NUL byte"
  | .nameTooLong => "File name too long"
  | .notEmpty => "Directory not empty"
  | .notUtf8 => "stream did not contain valid UTF-8"
  | .badDescriptor => "Bad file descriptor"
  | .brokenPipe => "Broken pipe"
  | .badProgram => "Exec format error"

/-- A system fault in words, with its number. -/
def SystemFault.message (fault : SystemFault) : String :=
  match fault.number? with
  | some n => fault.words ++ " (os error " ++ toString n ++ ")"
  | none => fault.words

/-- Why a configuration file cannot be read. -/
inductive FileFault where
  | system (fault : SystemFault)
  | document (fault : Yaml.Fault)
  deriving DecidableEq

/-- A file fault in words, given those for a document. -/
def FileFault.message (describe : Yaml.Fault → String) : FileFault → String
  | .system fault => fault.message
  | .document fault => describe fault

/-- Why settings cannot be used. -/
inductive SettingsFault where
  | file (fault : FileFault)
  | zeroTickInterval
  | notSwitch (value : String)
  | notSeconds (value : String)
  deriving DecidableEq

/-- A settings fault in words, given those for a document. -/
def SettingsFault.message (describe : Yaml.Fault → String) : SettingsFault → String
  | .file fault => fault.message describe
  | .zeroTickInterval => "tick_interval_secs must be greater than 0"
  | .notSwitch value =>
    "RUNWAY_SECRET_FILTERING must be 'true' or 'false', got '" ++ value ++ "'"
  | .notSeconds value =>
    "RUNWAY_NO_OUTPUT_TIMEOUT must be a number of seconds, got '" ++ value ++ "'"

/-- What failed and why. -/
inductive Error where
  /-- A declaration names no variable; its place in a list counts from 1. -/
  | malformed (key : String) (place : Option Nat) (fault : Declaration.Fault)
  /-- A declaration has an option that cannot be read. -/
  | invalidOption (key option : String) (fault : OptionFault)
  /-- The secret inventory cannot be read. -/
  | inventory (path : String) (fault : FileFault)
  /-- A file of variables cannot be read. -/
  | envFile (path : String) (fault : FileFault)
  /-- The settings, perhaps those of a file, cannot be used. -/
  | settings (path : Option String) (fault : SettingsFault)
  /-- A step's process cannot be started. -/
  | notStarted (commandLine : String)
  /-- The system refused something else. -/
  | system (fault : SystemFault)
  /-- A file of declarations is no list of declarations. -/
  | declarations (path : String) (fault : Yaml.Fault)

/-- An error as it is reported, under its heading. -/
inductive Report where
  | malformedDeclaration (key message : String)
  | invalidOption (key option message : String)
  | inventory (path message : String)
  | envFile (path message : String)
  | settings (message : String)
  | commandFailed (command : String) (code : Option Int)
  | system (message : String)
  | other (message : String)

/-- The text of a report. -/
def Report.text : Report → String
  | .malformedDeclaration key message =>
    "Malformed environment declaration (" ++ key ++ "): " ++ message
  | .invalidOption key option message =>
    "Invalid option '" ++ option ++ "' for environment declaration (" ++ key ++ "): " ++ message
  | .inventory path message => "Failed to load secret inventory at " ++ path ++ ": " ++ message
  | .envFile path message => "Failed to load envfile at " ++ path ++ ": " ++ message
  | .settings message => "Invalid settings: " ++ message
  | .commandFailed command code =>
    let shown := match code with
      | none => "None"
      | some n => "Some(" ++ toString n ++ ")"
    "Command failed with exit code " ++ shown ++ ": " ++ command
  | .system message => "IO error: " ++ message
  | .other message => message

namespace Error

/-- The report of an error, given the words for a document that cannot be read. -/
def report (describe : Yaml.Fault → String) : Error → Report
  | .malformed key none fault => .malformedDeclaration key fault.message
  | .malformed key (some n) fault =>
    .malformedDeclaration key ("declaration #" ++ toString n ++ ": " ++ fault.message)
  | .invalidOption key option fault => .invalidOption key option fault.message
  | .inventory path fault => .inventory path (fault.message describe)
  | .envFile path fault => .envFile path (fault.message describe)
  | .settings none fault => .settings (fault.message describe)
  | .settings (some path) fault => .settings (path ++ ": " ++ fault.message describe)
  | .notStarted commandLine => .commandFailed commandLine none
  | .system fault => .system fault.message
  | .declarations path fault =>
    .other ("invalid declaration file " ++ path ++ ": " ++ describe fault)

/-- The text of an error. -/
def message (e : Error) : String :=
  (e.report Yaml.Fault.message).text

/-- The error of a declaration, with its place in the list. -/
def atPlace (place : Nat) : Error → Error
  | .malformed key _ fault => .malformed key (some place) fault
  | e => e

end Error

end Stepwise
