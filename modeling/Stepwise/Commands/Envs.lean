import Stepwise.CommandLine.Request
import Stepwise.Inventory

/-!
# The command `envs`

The command (`EnvsCommand`) shows what declarations do, one line for each. The inventory is resolved
on the variables of the process, and the declarations on the result. Values of the inventory are
hidden wherever they appear, and sensitive variables are hidden whole.

* `EnvsRequest.lines` (`render`): the lines of the command.
* `Command.line` (`describe`): the line of one declaration.
* `CommandLine.printed`: lines as they are printed.
-/

namespace Stepwise

/-- The line that shows what a declaration does. -/
def Command.line (secrets : SecretSet) : Command → String
  | .set v =>
    let shown := if v.isSensitive then Redaction.markerText else secrets.redact v.value
    "set " ++ v.key ++ "=" ++ shown
  | .unset key => "unset " ++ key
  | .skip key => "skip " ++ key

/-- A list of declarations that stands alone in a file. -/
def Declaration.listReader : Yaml.Reader (List Declaration) :=
  Yaml.Reader.list Yaml.Reader.declaration

/-- The declarations of the file at a path. -/
def Declaration.load (path : String) (file : FileRead) : Except Error (List Declaration) :=
  match Declaration.listReader.runFile [] file with
  | .ok declarations => .ok declarations
  | .error (.system fault) => .error (.system fault)
  | .error (.document fault) => .error (.declarations path fault)

namespace CommandLine

/-- The declarations of an inventory that a request may name. -/
def inventoryOf (path : Option String) (read : String → FileRead) :
    Except Error (List Declaration) :=
  match path with
  | none => .ok []
  | some path => Inventory.load path (read path)

/-- The lines of the command, given the variables of the process and how files are read. -/
def EnvsRequest.lines (r : EnvsRequest) (env : Environment) (read : String → FileRead) :
    Except Error (List String) := do
  let inventory ← inventoryOf r.inventory read
  let declarations ← Declaration.load r.declarations (read r.declarations)
  let base ← resolve inventory env
  let effects ← resolve declarations base.result
  let secrets ← SecretSet.ofDeclarations inventory
  return effects.history.map (Command.line secrets)

/-- Lines as they are printed, each with a newline after it. -/
def printed (lines : List String) : Bytes :=
  Utf8.encode (String.join (lines.map (· ++ "\n")))

end CommandLine

end Stepwise
