import Stepwise.Machine.Utility.Basic

/-!
# Starting programs from programs

A process becomes another program by loading a file. A name without a slash is looked for in the
directories that the variable `PATH` lists.

* `Loader.execute`: become the program at a path.
* `Loader.executeNamed`: become the program with a name.
-/

namespace Stepwise.Machine

/-- What a file that can be executed holds. -/
inductive Image where
  /-- A program of the machine. -/
  | program (name : String)
  /-- A script, with the program and the argument that its first line names. -/
  | script (interpreter : Raw) (argument : Option Raw)

/-- The image in a script's content. -/
def Image.ofScript? (content : Raw) : Option Image :=
  match content with
  | '#' :: '!' :: rest =>
    let line := (rest.takeWhile (· ≠ '\n')).dropWhile (· = ' ')
    let interpreter := line.takeWhile (· ≠ ' ')
    let argument := (line.drop interpreter.length).dropWhile (· = ' ')
    some (.script interpreter (if argument.isEmpty then none else some argument))
  | _ => none

/-- What the file at a path holds, if it can be executed. -/
def Image.at (k : Kernel) (process : Nat) (path : Raw) : Except SystemFault Image := do
  match ← k.tree.find (k.directoryOf process) path.toBytes with
  | .directory | .device _ => throw .denied
  | .program name => return .program name
  | .file n =>
    let file := k.tree.file n
    if !file.executable then throw .denied
    match Image.ofScript? (Raw.ofBytes file.content) with
    | some image => return image
    | none => throw .badProgram

/-- The way in which programs are loaded. -/
structure Loader where
  /-- Become the program at a path. Only if that fails something is handed over. -/
  execute : Raw → Start → Task SystemFault

/-- The value of a variable. -/
def Start.valueOf? (program : Start) (name : String) : Option Raw :=
  let front := name.toList ++ ['=']
  (program.environment.find? (front.isPrefixOf ·)).map (·.drop front.length)

/-- The directories in which programs are looked for if no variable says so. -/
def defaultSearchPath : Raw := "/bin:/usr/bin".toList

/-- The paths at which a program with a name may be. -/
def candidates (searchPath name : Raw) : List Raw :=
  if name.contains '/' then [name]
  else (Raw.splitOn ':' searchPath).map fun directory =>
    if directory.isEmpty then name else directory ++ '/' :: name

namespace Loader

/-- Become the program at the first path where there is one. -/
def executeFirst (loader : Loader) (program : Start) (fault : SystemFault) :
    List Raw → Task SystemFault
  | [] => return fault
  | path :: paths => do
    match ← loader.execute path program with
    | .notFound | .notDirectory => loader.executeFirst program fault paths
    | .denied => loader.executeFirst program .denied paths
    | .badProgram =>
      loader.execute "/bin/sh".toList
        { program with name := "sh".toList, arguments := path :: program.arguments }
    | other => return other

/-- Become the program with a name. -/
def executeNamed (loader : Loader) (program : Start) : Task SystemFault :=
  if program.name.isEmpty then return .notFound
  else loader.executeFirst program .notFound
    (candidates ((program.valueOf? "PATH").getD defaultSearchPath) program.name)

end Loader

end Stepwise.Machine
