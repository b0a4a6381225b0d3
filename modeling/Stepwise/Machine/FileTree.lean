import Stepwise.Error
import Stepwise.Text.Utf8

/-!
# The files of a machine

A file tree maps paths to directories, files and devices. A file is known by a number, so that a
process can go on using a file that has been removed. Names are byte strings without `/` and NUL.

* `FileTree.resolve`: the path that a path text means. Every directory on the way has to exist; the
  last name need not.
* `FileTree.addFile`, `FileTree.remove`, `FileTree.makeDirectory`: changes of the tree.
-/

namespace Stepwise.Machine

/-- The names from the root to a place in the tree. -/
abbrev Path := List Bytes

/-- A device; all of them swallow what is written. -/
inductive Device where
  /-- Has no input. -/
  | null
  /-- Has endless zeros as input. -/
  | zero
  deriving DecidableEq, Inhabited

/-- What stands at a path. -/
inductive Entry where
  | directory
  | file (number : Nat)
  | device (device : Device)
  /-- A program of the machine, by its name. -/
  | program (name : String)
  deriving DecidableEq, Inhabited

/-- A file. -/
structure File where
  content : Bytes := []
  executable : Bool := false
  deriving DecidableEq, Inhabited

/-- The files of a machine. -/
structure FileTree where
  /-- What stands at each path; the root is not listed. -/
  entries : List (Path × Entry) := []
  files : List (Nat × File) := []
  nextNumber : Nat := 0
  deriving Inhabited

namespace FileTree

/-- The byte `/`. -/
def slash : UInt8 := 0x2F

/-- The longest name. -/
def maxNameLength : Nat := 255

/-! ## Paths -/

/-- The pieces of a byte string between separators. -/
def splitAt (separator : UInt8) : Bytes → List Bytes
  | [] => [[]]
  | b :: rest =>
    if b = separator then [] :: splitAt separator rest
    else match splitAt separator rest with
      | piece :: pieces => (b :: piece) :: pieces
      | [] => [[b]]

/-- The text of an absolute path. -/
def pathText (path : Path) : Bytes :=
  if path.isEmpty then [slash] else path.flatMap fun name => slash :: name

/-- What stands at a path. -/
def entryAt? (tree : FileTree) (path : Path) : Option Entry :=
  if path.isEmpty then some .directory else tree.entries.lookup path

/-- Whether there is a directory at a path. -/
def isDirectory (tree : FileTree) (path : Path) : Bool :=
  tree.entryAt? path = some .directory

/-- Go on from a path by names, where `.` stays and `..` goes back. Everything but the last place
has to be a directory. -/
def walk (tree : FileTree) (path : Path) : List Bytes → Except SystemFault Path
  | [] => .ok path
  | name :: names =>
    match tree.entryAt? path with
    | none => .error .notFound
    | some .directory =>
      if name = [] || name = [0x2E] then walk tree path names
      else if name = [0x2E, 0x2E] then walk tree path.dropLast names
      else if maxNameLength < name.length then .error .nameTooLong
      else walk tree (path ++ [name]) names
    | some _ => .error .notDirectory

/-- The path that a text means in a working directory. -/
def resolve (tree : FileTree) (cwd : Path) (text : Bytes) : Except SystemFault Path :=
  if text.isEmpty then .error .notFound
  else if text.contains 0 then .error .invalidName
  else tree.walk (if text.head? = some slash then [] else cwd) (splitAt slash text)

/-- What stands at the path that a text means. -/
def find (tree : FileTree) (cwd : Path) (text : Bytes) : Except SystemFault Entry :=
  (tree.resolve cwd text).bind fun path => match tree.entryAt? path with
    | some e => .ok e
    | none => .error .notFound

/-! ## Files -/

/-- The file with a number. -/
def file (tree : FileTree) (number : Nat) : File :=
  (tree.files.lookup number).getD {}

/-- The tree after a change of one file. -/
def modifyFile (tree : FileTree) (number : Nat) (change : File → File) : FileTree :=
  { tree with files := tree.files.map fun f => if f.1 = number then (f.1, change f.2) else f }

/-- The content of the file that a path text means. -/
def read (tree : FileTree) (cwd : Path) (text : Bytes) : Except SystemFault Bytes :=
  (tree.find cwd text).bind fun
    | .directory => .error .isDirectory
    | .file number => .ok (tree.file number).content
    | .device _ | .program _ => .ok []

/-- Put an entry at a path. -/
def place (tree : FileTree) (path : Path) (entry : Entry) : FileTree :=
  { tree with entries := (tree.entries.filter (·.1 ≠ path)) ++ [(path, entry)] }

/-- Make a new file at a path. Its number comes with it. -/
def addFile (tree : FileTree) (path : Path) (content : Bytes) : FileTree × Nat :=
  let number := tree.nextNumber
  ({ tree.place path (.file number) with
      files := (number, { content }) :: tree.files, nextNumber := number + 1 }, number)

/-- Whether something can be made at a path: its parent has to be a directory. -/
def checkParent (tree : FileTree) (path : Path) : Except SystemFault Unit :=
  match tree.entryAt? path.dropLast with
  | some .directory => .ok ()
  | some _ => .error .notDirectory
  | none => .error .notFound

/-- Make a directory. -/
def makeDirectory (tree : FileTree) (path : Path) : Except SystemFault FileTree :=
  if (tree.entryAt? path).isSome then .error .exists
  else (tree.checkParent path).map fun _ => tree.place path .directory

/-- The names in a directory, in the order of their bytes. -/
def names (tree : FileTree) (path : Path) : List Bytes :=
  let inside := tree.entries.filterMap fun (p, _) =>
    if p ≠ [] && p.dropLast = path then p.getLast? else none
  inside.mergeSort fun a b => !(b < a)

/-- Remove what is not a directory. -/
def remove (tree : FileTree) (path : Path) : FileTree :=
  { tree with entries := tree.entries.filter (·.1 ≠ path) }

/-- Remove everything at and below a path. -/
def removeAll (tree : FileTree) (path : Path) : FileTree :=
  { tree with entries := tree.entries.filter fun e => !path.isPrefixOf e.1 }

/-- Put something that stands at one path, with all below it, at another. -/
def move (tree : FileTree) (source target : Path) : FileTree :=
  let kept := tree.entries.filter fun e => !target.isPrefixOf e.1
  { tree with entries := kept.map fun e =>
      if source.isPrefixOf e.1 then (target ++ e.1.drop source.length, e.2) else e }

/-- Make a file with its content, and all directories on the way to it. -/
def install (tree : FileTree) (path : Path) (content : Option Bytes) : FileTree :=
  let parents := (List.range path.length).map (path.take ·)
  let tree := parents.foldl (fun tree p => if (tree.entryAt? p).isSome then tree
    else tree.place p .directory) tree
  match content with
  | some bytes => (tree.addFile path bytes).1
  | none => tree.place path .directory

end FileTree

end Stepwise.Machine
