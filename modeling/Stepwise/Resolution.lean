import Stepwise.Environment
import Stepwise.Error
import Stepwise.Expansion

/-!
# Resolution of declarations

A list of declarations is resolved from left to right. Each declaration becomes a `Command` in the
environment that the earlier ones made, and the command is carried out before the next declaration
is looked at. The commands are kept: `replay` carries them out again on any environment.

A variable is sensitive when it is declared so or when its value was expanded from a sensitive one.

* `Command` (`DeclarationCommand`): what a declaration does. `Declaration.command`
  (`declaration_command`): the command of a declaration.
* `Resolution` (`DeclarationSideEffects`): what comes of a list.
* `Resolution.resolve` (`resolve_declarations`): the resolution of a list on a source.
-/

namespace Stepwise

/-- What one declaration does to an environment. -/
inductive Command where
  | set (var : Variable)
  | unset (key : String)
  | skip (key : String)
  deriving DecidableEq

namespace Command

/-- The name of the variable that a command is about. -/
def key : Command → String
  | .set var => var.key
  | .unset key => key
  | .skip key => key

/-- Carry out a command. -/
def apply (env : Environment) : Command → Environment
  | .set var => env.insert var
  | .unset key => env.erase key
  | .skip _ => env

/-- The value that a command sets. -/
def value? : Command → Option String
  | .set var => some var.value
  | _ => none

end Command

/-- Carry out commands in order. -/
def replay (history : List Command) (env : Environment) : Environment :=
  history.foldl Command.apply env

namespace Declaration

/-- What messages call the variable of a declaration, together with a fault of its entries. -/
def malformed (d : Declaration) (fault : Fault) : Error :=
  .malformed d.displayKey none fault

/-- The name and the text of the variable of a declaration. -/
def keyValue (d : Declaration) : Except Error (String × String) :=
  d.binding.mapError d.malformed

/-- The options of a declaration. -/
def readOptions (d : Declaration) : Except Error Options :=
  d.options.mapError fun e => .invalidOption d.displayKey e.1 e.2

/-- The value that a reference stands for: the empty text if there is no such variable. -/
def lookUp (env : Environment) (name : String) : String :=
  (env.value? name).getD ""

/-- Whether a text refers to a sensitive variable. -/
def refersToSensitive (env : Environment) (text : String) : Bool :=
  (Expansion.references text).any fun name => (env.get? name).any (·.isSensitive)

/-- The variable that a declaration sets. -/
def variableOf (env : Environment) (o : Options) (key text : String) : Variable :=
  if o.expands then
    { key, value := Expansion.expand (lookUp env) text
      isSensitive := o.sensitive || refersToSensitive env text }
  else { key, value := text, isSensitive := o.sensitive }

/-- What a declaration of `key` and `text` does under its options. -/
def commandOf (env : Environment) (o : Options) (key text : String) : Command :=
  if o.unsets then .unset key
  else if o.skipsIfEmpty && text = "" then .skip key
  else .set (variableOf env o key text)

/-- What a declaration does in an environment. A fault of its entries comes before one of its
options. -/
def command (d : Declaration) (env : Environment) : Except Error Command :=
  match d.keyValue with
  | .error e => .error e
  | .ok (key, text) => d.readOptions.map fun o => commandOf env o key text

end Declaration

/-- What resolving a list of declarations gives. -/
structure Resolution where
  /-- One command for each declaration, in order. -/
  history : List Command
  /-- The environment after the last command. -/
  result : Environment
  /-- The variables that the commands set and that are still there. -/
  added : Environment
  deriving DecidableEq

namespace Resolution

/-- Resolve the declarations that come after the first `done` of a list. -/
def continueFrom (done : Nat) (env added : Environment) :
    List Declaration → Except Error Resolution
  | [] => .ok ⟨[], env, added⟩
  | d :: ds => match d.command env with
    | .error e => .error (e.atPlace (done + 1))
    | .ok c => match continueFrom (done + 1) (c.apply env) (c.apply added) ds with
      | .error e => .error e
      | .ok r => .ok { r with history := c :: r.history }

end Resolution

/-- Resolve declarations in order on top of an environment. -/
def resolve (declarations : List Declaration) (source : Environment) : Except Error Resolution :=
  Resolution.continueFrom 0 source .empty declarations

end Stepwise
