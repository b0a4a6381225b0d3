import Stepwise.Machine.Utility.Control
import Stepwise.Machine.Utility.Files
import Stepwise.Machine.Utility.Layout
import Stepwise.Machine.Utility.Search

/-!
# The programs of the machine

The programs beside the shell, by their names.
-/

namespace Stepwise.Machine.Utility

/-- A program that only has an exit code. -/
def ending (code : Nat) : Program := fun _ => return code

/-- The programs by their names. -/
def table (loader : Loader) : List (String × Program) := [
  ("true", ending 0), ("false", ending 1), ("echo", echo), ("printf", printf), ("yes", yes),
  ("seq", seq), ("cat", cat), ("tee", tee), ("head", head), ("tail", tail), ("cut", cut),
  ("sort", sort), ("uniq", uniq), ("wc", wc), ("tr", tr), ("tac", tac), ("rev", rev),
  ("nl", nl), ("paste", paste), ("fold", fold), ("comm", comm), ("od", od), ("base64", base64),
  ("dd", dd), ("grep", grep), ("egrep", egrep), ("fgrep", fgrep), ("sed", sed), ("pwd", pwd),
  ("basename", basename), ("dirname", dirname), ("realpath", realpath), ("readlink", realpath),
  ("ls", ls), ("mkdir", mkdir), ("rmdir", rmdir), ("rm", rm), ("unlink", rm), ("touch", touch),
  ("cp", cp), ("mv", mv), ("chmod", chmod), ("ln", ln), ("truncate", truncate), ("mktemp", mktemp),
  ("find", find), ("cmp", cmp), ("sync", ending 0), ("test", test), ("[", test),
  ("expr", expr), ("env", env loader), ("printenv", printenv), ("sleep", sleep),
  ("timeout", timeout loader), ("kill", kill), ("nohup", nohup loader), ("setsid", setsid loader),
  ("which", which), ("tty", tty), ("nice", plainly "n" loader), ("stdbuf", plainly "ioe" loader),
  ("xargs", xargs loader),
  ("whoami", answering fun _ => "root"), ("nproc", answering fun _ => "1"),
  ("uname", answering fun _ => "Linux"), ("id", answering fun words =>
    if words.any (·.contains 'u') then if words.any (·.contains 'n') then "root" else "0"
    else "uid=0(root) gid=0(root) groups=0(root)")]

/-- The program with a name. -/
def find? (loader : Loader) (name : String) : Option Program := (table loader).lookup name

/-- The names of all programs beside the shell. -/
def names : List String := (table ⟨fun _ _ => return .notFound⟩).map (·.1)

end Stepwise.Machine.Utility
