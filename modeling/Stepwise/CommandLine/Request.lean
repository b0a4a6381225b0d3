import Stepwise.CommandLine.Grammar
import Stepwise.Settings

/-!
# Requests

What a command line asks for.

* `exec [options] program [arguments]` (`ExecArgs`): run a program as the only step of a workflow.
* `envs --decl FILE [--inventory FILE]` (`EnvsArgs`): show what declarations do.
* `help [command]`.

The files of `exec` may also be named by variables, which count where the option is absent.

* `Request.ofWords`: the request of a list of words, or why there is none.
* `Halt.exitCode`: the exit code where there is none.
-/

namespace Stepwise.CommandLine

/-- The program's name and version. -/
def programName : String := "runway"

/-- The version of the program and of its commands. -/
def versionNumber : String := "0.1.0"

/-- A command. -/
inductive CommandName where
  | exec
  | envs
  deriving DecidableEq, Inhabited

/-- The word for a command. -/
def CommandName.text : CommandName → String
  | .exec => "exec"
  | .envs => "envs"

/-- The command that a word stands for. -/
def CommandName.ofWord? (word : String) : Option CommandName :=
  [CommandName.exec, .envs].find? (·.text = word)

/-- Where there is no request, why, and which command had been named by then. -/
structure Halt where
  command : Option CommandName
  reason : Stop
  deriving DecidableEq, Inhabited

/-- The exit code where there is no request. -/
def Halt.exitCode (h : Halt) : Nat :=
  match h.reason with
  | .usage _ => 2
  | .help | .version => 0

/-- The line that tells the version. -/
def versionLine (command : Option CommandName) : String :=
  let name := match command with
    | none => programName
    | some c => programName ++ "-" ++ c.text
  name ++ " " ++ versionNumber ++ "\n"

/-! ## Values of options -/

/-- Give an option its value, once. -/
def once {α β : Type} (option : String) (read : String → Option β) (current : α → Option β)
    (give : α → β → α) : ValueOption α where
  name := option
  assign value options := match read value with
    | none => .error (.refusedValue option value)
    | some b => if (current options).isSome then .error (.repeated option)
      else .ok (give options b)

/-- A path is not empty. -/
def path? (text : String) : Option String :=
  if text.isEmpty then none else some text

/-- A number of seconds: digits, perhaps after a plus sign, for a number of 64 bits. -/
def seconds? (text : String) : Option Nat :=
  let digits := match text.toList with
    | '+' :: cs => cs
    | cs => cs
  let n := digits.foldl (fun n c => 10 * n + (c.toNat - '0'.toNat)) 0
  if digits.isEmpty || !digits.all Char.isDigit || Nat.pow 2 64 ≤ n then none else some n

/-- A switch is `true` or `false`. -/
def switch? (text : String) : Option Bool :=
  if text = "true" then some true else if text = "false" then some false else none

/-! ## The command `exec` -/

/-- The options of `exec`. -/
structure ExecOptions where
  inventory : Option String := none
  settings : Option String := none
  flags : Settings.Flags := {}
  workflow : Option String := none
  title : Option String := none
  deriving DecidableEq, Inhabited

/-- A request to run a program. -/
structure ExecRequest where
  options : ExecOptions
  program : String
  arguments : List String
  deriving DecidableEq, Inhabited

/-- The workflow that a program is run as, unless an option names another. -/
def ExecRequest.defaultWorkflow : String := "exec"

/-- The workflow that a program is run as. -/
def ExecRequest.workflow (r : ExecRequest) : String :=
  r.options.workflow.getD defaultWorkflow

/-- The title of the step that runs a program. -/
def ExecRequest.title (r : ExecRequest) : String :=
  r.options.title.getD r.program

/-- The grammar of `exec`. -/
def execGrammar : Grammar ExecOptions where
  options := [
    once "inventory" path? (·.inventory) fun o v => { o with inventory := some v },
    once "settings" path? (·.settings) fun o v => { o with settings := some v },
    once "hang-timeout" seconds? (·.flags.noOutputSeconds) fun o v =>
      { o with flags := { o.flags with noOutputSeconds := some v } },
    once "timeout" seconds? (·.flags.timeoutSeconds) fun o v =>
      { o with flags := { o.flags with timeoutSeconds := some v } },
    once "secret-filtering" switch? (·.flags.filtering) fun o v =>
      { o with flags := { o.flags with filtering := some v } },
    once "workflow" some (·.workflow) fun o v => { o with workflow := some v },
    once "title" some (·.title) fun o v => { o with title := some v }]
  takesHyphens := true
  initial := {}

/-- The variable that names the inventory. -/
def inventoryKey : String := "RUNWAY_INVENTORY"

/-- The variable that names the settings. -/
def settingsKey : String := "RUNWAY_SETTINGS"

/-- The path that an option gives or, without it, a variable. -/
def pathOr (lookup : String → Option String) (option key : String) (given : Option String) :
    Except UsageFault (Option String) :=
  match given, lookup key with
  | some path, _ => .ok (some path)
  | none, none => .ok none
  | none, some value => match path? value with
    | some path => .ok (some path)
    | none => .error (.refusedValue option value)

/-- The request of the words after `exec`. -/
def ExecRequest.ofScanned (lookup : String → Option String) (s : Scanned ExecOptions) :
    Except UsageFault ExecRequest := do
  let inventory ← pathOr lookup "inventory" inventoryKey s.options.inventory
  let settings ← pathOr lookup "settings" settingsKey s.options.settings
  match s.rest with
  | [] => throw .noProgram
  | program :: arguments =>
    return { options := { s.options with inventory, settings }, program, arguments }

/-! ## The command `envs` -/

/-- The options of `envs`. -/
structure EnvsOptions where
  inventory : Option String := none
  declarations : Option String := none
  deriving DecidableEq, Inhabited

/-- A request to show what declarations do. -/
structure EnvsRequest where
  inventory : Option String
  /-- The file of the declarations. -/
  declarations : String
  deriving DecidableEq, Inhabited

/-- The grammar of `envs`. -/
def envsGrammar : Grammar EnvsOptions where
  options := [
    once "inventory" path? (·.inventory) fun o v => { o with inventory := some v },
    once "decl" path? (·.declarations) fun o v => { o with declarations := some v }]
  takesHyphens := false
  initial := {}

/-- The request of the words after `envs`. -/
def EnvsRequest.ofScanned (s : Scanned EnvsOptions) : Except UsageFault EnvsRequest :=
  match s.rest, s.options.declarations with
  | word :: _, _ => .error (.unexpectedWord word)
  | [], none => .error (.missingOption "decl")
  | [], some declarations => .ok { inventory := s.options.inventory, declarations }

/-! ## All commands -/

/-- What a command line asks for. -/
inductive Request where
  | exec (request : ExecRequest)
  | envs (request : EnvsRequest)
  deriving DecidableEq, Inhabited

/-- The grammar of the words before the name of a command. -/
def rootGrammar : Grammar Unit where
  options := []
  takesHyphens := false
  initial := ()

/-- The request of the words after the name of a command. -/
def Request.ofCommand (lookup : String → Option String) (words : List String) :
    CommandName → Except Stop Request
  | .exec => do
    let scanned ← execGrammar.scan words
    .exec <$> (ExecRequest.ofScanned lookup scanned).mapError .usage
  | .envs => do
    let scanned ← envsGrammar.scan words
    .envs <$> (EnvsRequest.ofScanned scanned).mapError .usage

/-- Where the words after `help` lead: one command at most has help of its own. -/
def helpFor : List String → Stop
  | [] => .help
  | [word] =>
    if word = "help" || (CommandName.ofWord? word).isSome then .help
    else .usage (.unknownCommand word)
  | _ :: word :: _ => .usage (.unknownCommand word)

/-- The request of the words of a command line, given the values of variables. -/
def Request.ofWords (lookup : String → Option String) (words : List String) :
    Except Halt Request := do
  let scanned ← (rootGrammar.scan words).mapError (Halt.mk none)
  match scanned.rest with
  | [] => throw ⟨none, .usage .noCommand⟩
  | word :: rest =>
    if scanned.separated then throw ⟨none, .usage (.unexpectedWord word)⟩
    if word = "help" then throw ⟨none, helpFor rest⟩
    match CommandName.ofWord? word with
    | none => throw ⟨none, .usage (.unknownCommand word)⟩
    | some command => (Request.ofCommand lookup rest command).mapError (Halt.mk (some command))

end Stepwise.CommandLine
