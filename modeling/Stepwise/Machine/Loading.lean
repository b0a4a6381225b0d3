import Stepwise.Machine.Shell.Program
import Stepwise.Machine.Utility.Table

/-!
# Loading programs

The programs that the machine has, and how a process becomes one of them. The number bounds how
often a process can become another program.
-/

namespace Stepwise.Machine

/-- The names by which the shell is found. -/
def shellNames : List String := ["sh", "dash", "bash"]

/-- The names of all programs. -/
def programNames : List String := shellNames ++ Utility.names

/-- The program with a name. -/
def programOf (loader : Loader) (name : String) : Program :=
  if shellNames.contains name then Shell.program loader
  else (Utility.find? loader name).getD fun _ => return 127

/-- Go on as another program. -/
def enter {α : Type} (program : Program) (start : Start) : Task α := do
  Task.change fun process k => (k.dropCaught process).closeOwn process
  Task.spend Task.programCost
  Task.become (program start)

/-- The loader of the machine. -/
def loader : Nat → Loader
  | 0 => ⟨fun _ _ => return .badProgram⟩
  | fuel + 1 => ⟨fun path start => do
      match ← Task.observe fun process k => Image.at k process path with
      | .error e => return e
      | .ok (.program name) => enter (programOf (loader fuel) name) start
      | .ok (.script interpreter argument) =>
        (loader fuel).execute interpreter { start with
          name := interpreter
          arguments := argument.toList ++ path :: start.arguments }⟩

/-- How often a process can become another program. -/
def loadingLimit : Nat := 1000

end Stepwise.Machine
