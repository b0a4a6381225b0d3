import Stepwise.Yaml.File

/-!
# The secret inventory

The inventory is a file that declares the secrets of a run, under the key `envs`.

* `Inventory.ofText` (`parse_inventory`): the declarations of a text.
* `Inventory.load` (`load_inventory`): those of a file.
-/

namespace Stepwise.Inventory

open Yaml

/-- The declarations of an inventory. -/
def reader : Reader (List Declaration) :=
  Reader.record ["envs"] fun depth field =>
    Reader.field (Reader.list Reader.declaration) [] depth (field "envs")

/-- The declarations of an inventory's text. -/
def ofText (text : String) : Except Fault (List Declaration) :=
  reader.runOrDefault [] text

/-- The declarations of the file at a path. -/
def load (path : String) (file : FileRead) : Except Error (List Declaration) :=
  (reader.runFile [] file).mapError (.inventory path)

end Stepwise.Inventory
