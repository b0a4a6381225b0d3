import Stepwise.Files
import Stepwise.Text.Blank
import Stepwise.Yaml.Reader

/-!
# YAML files

A file that holds white space only is as good as one that gives nothing.
-/

namespace Stepwise.Yaml.Reader

variable {α : Type}

/-- Read a text that may be blank. -/
def runOrDefault (reader : Reader α) (default : α) (text : String) : Except Fault α :=
  if Text.isBlankText text then .ok default else reader.run text

/-- Read a file that may be blank. -/
def runFile (reader : Reader α) (default : α) (file : FileRead) : Except FileFault α :=
  match file.text with
  | .error e => .error (.system e)
  | .ok text => (reader.runOrDefault default text).mapError .document

end Stepwise.Yaml.Reader
