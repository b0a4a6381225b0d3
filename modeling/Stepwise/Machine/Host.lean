import Stepwise.Machine.Loading
import Stepwise.Machine.Supervision

/-!
# A machine as a host

A machine on which steps can be run: with a shell, with the usual programs, and with some files in a
working directory.

* `Machine.new`: a machine with files.
* `Machine.host`: the machine as the host of steps, in a working directory and with variables that
  processes inherit.
-/

namespace Stepwise.Machine

/-! ## The files of a new machine -/

/-- The path of a list of names. -/
def pathOf (names : List String) : Path := names.map Utf8.encode

/-- The directories of every machine. -/
def directories : List Path :=
  [["bin"], ["dev"], ["etc"], ["home"], ["proc"], ["root"], ["tmp"], ["usr"], ["usr", "bin"],
    ["usr", "lib"], ["var"], ["var", "tmp"]].map pathOf

/-- The files of every machine. -/
def systemTree : FileTree :=
  let tree := directories.foldl (fun tree path => tree.place path .directory) ({} : FileTree)
  let tree := (tree.place (pathOf ["dev", "null"]) (.device .null)).place
    (pathOf ["dev", "zero"]) (.device .zero)
  programNames.foldl (fun tree name =>
    (tree.place (pathOf ["bin", name]) (.program name)).place (pathOf ["usr", "bin", name])
      (.program name)) tree

/-- A machine with files in a directory. -/
def new (directory : Path) (files : List (Bytes × Option Bytes)) : Machine :=
  let tree := systemTree.install directory none
  let tree := files.foldl (fun tree (name, content) =>
    match tree.resolve directory name with
    | .ok path => tree.install path content
    | .error _ =>
      let path := directory ++ (FileTree.splitAt FileTree.slash name).filter (· ≠ [])
      tree.install path content) tree
  { kernel := { tree } }

/-! ## Starting a process -/

/-- Variables with the last value of each, in the order of their names. -/
def normalized (vars : List (String × String)) : List (Bytes × Bytes) :=
  let encoded := vars.map fun (key, value) => (Utf8.encode key, Utf8.encode value)
  let last := encoded.foldr (fun v kept => if kept.any (·.1 = v.1) then kept else v :: kept) []
  last.mergeSort fun a b => !(b.1 < a.1)

/-- The place at which a machine is used. -/
structure Site where
  directory : Path
  /-- The variables of a process that is not given any. -/
  vars : List (String × String)

/-- What a process is started with. -/
def startOf (site : Site) (i : Invocation) : Start where
  name := Raw.ofString i.program
  arguments := i.arguments.map Raw.ofString
  environment := (normalized (i.vars.getD site.vars)).map fun (key, value) =>
    Raw.ofBytes (key ++ 0x3D :: value)

/-- Whether everything that a process is started with can be handed over. -/
def isStartable (start : Start) : Bool :=
  !start.name.isEmpty &&
    (start.name :: start.arguments ++ start.environment).all fun word => !word.contains '\x00'

/-- The directories in which the program of a process is looked for. -/
def searchPathOf (site : Site) (start : Start) : Raw :=
  (start.valueOf? "PATH").getD
    (((site.vars.lookup "PATH").map Raw.ofString).getD defaultSearchPath)

/-- A process that has just been started for an invocation, if its directory and its program
exist. -/
def launch (m : Machine) (site : Site) (i : Invocation) : Option (Machine × Nat) := do
  let start := startOf site i
  if !isStartable start then none
  let directory ← match i.directory with
    | none => some site.directory
    | some text => match m.kernel.tree.resolve site.directory (Utf8.encode text) with
      | .ok path => if m.kernel.tree.isDirectory path then some path else none
      | .error _ => none
  let number := m.kernel.nextProcess
  let process : Process := { number, parent := 0, group := number, directory }
  let kernel := { m.kernel with
    processes := m.kernel.processes ++ [process], nextProcess := number + 1 }
  let path ← (candidates (searchPathOf site start) start.name).find? fun path =>
    (Image.at kernel number path).isOk
  let kernel := kernel.install number 0 (Kernel.openFor (.device .null) .read)
  let kernel := kernel.install number 1 (Kernel.openFor (.stream .output) .write)
  let kernel := kernel.install number 2 (Kernel.openFor (.stream .error) .write)
  let task : Task Nat := do
    let _ ← (loader loadingLimit).execute path start
    return 127
  return ({ m with kernel }.add number (task.activity number), number)

/-- Run a process to its end, if it can be started. -/
def run (site : Site) (i : Invocation) (m : Machine) : Option (Behaviour × Machine) :=
  (m.launch site i).map fun (m, process) => m.supervise i process

/-! ## Files -/

/-- The directory for new files unless another one is given. -/
def temporaryDirectory : Bytes := Utf8.encode "/tmp"

/-- The name of a new file: a number makes it different from all others. -/
def newName (number : Nat) : Bytes :=
  let digits := toString number
  Utf8.encode ("runway-output-" ++ String.ofList (List.replicate (6 - digits.length) '0') ++
    digits ++ ".env")

/-- Make a new file. Its absolute path comes with it. -/
def newFile (site : Site) (directory : Option String) (m : Machine) :
    Except SystemFault (String × Machine) := do
  let tree := m.kernel.tree
  let parent ← tree.resolve site.directory
    ((directory.map Utf8.encode).getD temporaryDirectory)
  let path := parent ++ [newName tree.nextNumber]
  tree.checkParent path
  let (tree, _) := tree.addFile path []
  return (Utf8.decodeLossy (FileTree.pathText path), { m with kernel := { m.kernel with tree } })

/-- Remove a file; what is not there or is a directory stays as it is. -/
def removeFile (site : Site) (path : String) (m : Machine) : Machine :=
  let tree := m.kernel.tree
  match tree.resolve site.directory (Utf8.encode path) with
  | .ok p =>
    if tree.isDirectory p then m else { m with kernel := { m.kernel with tree := tree.remove p } }
  | .error _ => m

/-- A machine as the host of steps. -/
def host (site : Site) : Host Machine where
  newFile := newFile site
  read path m := m.kernel.tree.read site.directory (Utf8.encode path)
  remove := removeFile site
  start i m := match run site i m with
    | none => .refused
    | some (b, m) => .ended b m

end Stepwise.Machine
