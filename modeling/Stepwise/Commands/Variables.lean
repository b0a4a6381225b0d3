import Stepwise.Environment
import Stepwise.Text.Utf8

/-!
# The variables of a process

A process has variables whose names and values are bytes. As an environment they are text: what is
not UTF-8 is replaced, and a variable without a name is left out.

* `Environment.ofProcess` (`ProcessEnvironment`): the environment of a process.
* `Environment.textOfProcess?`: one value, where it has to be text.
* `Environment.variablesOfBlock`: the variables in the form in which the system keeps them.
-/

namespace Stepwise.Environment

/-- The environment of a process, given its variables. -/
def ofProcess (vars : List (Bytes × Bytes)) : Environment :=
  ofPairs ((vars.filter fun v => !v.1.isEmpty).map fun v =>
    (Utf8.decodeLossy v.1, Utf8.decodeLossy v.2))

/-- The value of a variable of a process, if it is text. -/
def textOfProcess? (vars : List (Bytes × Bytes)) (name : String) : Option String :=
  (vars.lookup (Utf8.encode name)).bind Utf8.decode?

/-- The byte after a variable. -/
def blockEnd : UInt8 := 0

/-- The byte between a name and a value. -/
def blockEquals : UInt8 := 0x3D

/-- The variables of a block: each is a name, an equals sign and a value, and ends with a zero. -/
def variablesOfBlock (block : Bytes) : List (Bytes × Bytes) :=
  (block.splitOn blockEnd).filterMap fun v =>
    let name := v.takeWhile (· ≠ blockEquals)
    match v.drop name.length with
    | [] => none
    | _ :: value => some (name, value)

end Stepwise.Environment
