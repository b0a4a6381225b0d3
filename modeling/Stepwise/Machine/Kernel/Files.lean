import Stepwise.Machine.Kernel.Basic

/-!
# Opening, reading and writing files

An access gives `none` as long as it has to wait: reading, as long as a pipe is empty that somebody
can write to; writing, as long as a pipe is full that somebody can read from.

* `Kernel.openPath`: open the file that a path means.
* `Kernel.read`, `Kernel.write`: an access through a descriptor.
-/

namespace Stepwise.Machine

/-- What a file is opened for. -/
inductive Access where
  | read
  /-- Write to a file that is new or made empty. -/
  | write
  /-- Write to the end of a file that may be new. -/
  | append
  /-- Read and write a file that may be new. -/
  | readWrite
  deriving DecidableEq

namespace Kernel

/-- How much a pipe takes before a writer has to wait. -/
def pipeCapacity : Nat := 65536

/-- An open file of a target for an access. -/
def openFor (target : Target) (access : Access) : OpenFile where
  target
  readable := access = .read || access = .readWrite
  writable := access ≠ .read
  appends := access = .append

/-- The descriptor that is meant by a path below `/dev`. -/
def deviceDescriptor? (text : Bytes) : Option Nat :=
  let raw := Raw.ofBytes text
  if raw = "/dev/stdin".toList then some 0
  else if raw = "/dev/stdout".toList then some 1
  else if raw = "/dev/stderr".toList then some 2
  else if raw.take 8 = "/dev/fd/".toList then Raw.toNat? (raw.drop 8)
  else none

/-- Open an entry of the tree. -/
def openEntry (k : Kernel) (access : Access) : Entry → Except SystemFault (Kernel × OpenFile)
  | .directory =>
    if access = .read then .ok (k, openFor .directory access) else .error .isDirectory
  | .device d => .ok (k, openFor (.device d) access)
  | .program _ => if access = .read then .ok (k, openFor (.device .null) .read) else .error .denied
  | .file n =>
    let tree := if access = .write then k.tree.modifyFile n fun f => { f with content := [] }
      else k.tree
    .ok ({ k with tree }, openFor (.file n) access)

/-- Open the file that a path means for a process. -/
def openPath (k : Kernel) (process : Nat) (text : Bytes) (access : Access) :
    Except SystemFault (Kernel × OpenFile) :=
  match deviceDescriptor? text with
  | some descriptor => (k.openAt process descriptor).map fun (_, file) => (k, file)
  | none =>
    (k.tree.resolve (k.directoryOf process) text).bind fun path =>
      match k.tree.entryAt? path with
      | some entry => k.openEntry access entry
      | none =>
        if access = .read then .error .notFound
        else if text.getLast? = some FileTree.slash then .error .isDirectory
        else (k.tree.checkParent path).map fun _ =>
          let (tree, number) := k.tree.addFile path []
          ({ k with tree }, openFor (.file number) access)

/-- Replace what is in a pipe. -/
def setPipe (k : Kernel) (number : Nat) (content : Raw) : Kernel :=
  { k with pipes := k.pipes.map fun p => if p.1 = number then (number, content) else p }

/-- Read up to `limit` bytes through an open file. -/
def readOpen (k : Kernel) (number : Nat) (file : OpenFile) (limit : Nat) :
    Option (Kernel × Except SystemFault Raw) :=
  match file.target with
  | .file n =>
    let data := ((k.tree.file n).content.drop file.offset).take limit
    some (k.modifyOpen number fun f => { f with offset := f.offset + data.length },
      .ok (Raw.ofBytes data))
  | .directory => some (k, .error .isDirectory)
  | .device .null | .stream _ => some (k, .ok [])
  | .device .zero => some (k, .ok (List.replicate limit '\x00'))
  | .pipe n =>
    let content := (k.pipes.lookup n).getD []
    if content.isEmpty then if k.hasEnd n true then none else some (k, .ok [])
    else some (k.setPipe n (content.drop limit), .ok (content.take limit))

/-- Read up to `limit` bytes through a descriptor of a process. Nothing is read at the end. -/
def read (k : Kernel) (process descriptor limit : Nat) : Option (Kernel × Except SystemFault Raw) :=
  match k.openAt process descriptor with
  | .error e => some (k, .error e)
  | .ok (number, file) =>
    if file.readable then k.readOpen number file limit else some (k, .error .badDescriptor)

/-- A text with a piece written over it from a place on. -/
def overwrite (content : Bytes) (offset : Nat) (piece : Bytes) : Bytes :=
  content.take offset ++ List.replicate (offset - content.length) 0 ++ piece ++
    content.drop (offset + piece.length)

/-- Write bytes through an open file. -/
def writeOpen (k : Kernel) (number : Nat) (file : OpenFile) (data : Raw) :
    Option (Kernel × Except SystemFault Unit) :=
  match file.target with
  | .file n =>
    let piece := data.toBytes
    let content := (k.tree.file n).content
    let offset := if file.appends then content.length else file.offset
    let changed := if offset = content.length then content ++ piece
      else overwrite content offset piece
    let k := { k with tree := k.tree.modifyFile n fun f => { f with content := changed } }
    some (k.modifyOpen number fun f => { f with offset := offset + piece.length }, .ok ())
  | .directory => some (k, .error .badDescriptor)
  | .device _ => some (k, .ok ())
  | .stream stream =>
    let chunk := { stream, bytes := data.toBytes }
    some (if data.isEmpty then k else { k with written := chunk :: k.written }, .ok ())
  | .pipe n =>
    let content := (k.pipes.lookup n).getD []
    if !k.hasEnd n false then some (k, .error .brokenPipe)
    else if pipeCapacity ≤ content.length then none
    else some (k.setPipe n (content ++ data), .ok ())

/-- Write bytes through a descriptor of a process. -/
def write (k : Kernel) (process descriptor : Nat) (data : Raw) :
    Option (Kernel × Except SystemFault Unit) :=
  match k.openAt process descriptor with
  | .error e => some (k, .error e)
  | .ok (number, file) =>
    if file.writable then k.writeOpen number file data else some (k, .error .badDescriptor)

end Kernel

end Stepwise.Machine
