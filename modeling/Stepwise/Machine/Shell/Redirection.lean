import Stepwise.Machine.Shell.Expansion

/-!
# Redirections

A redirection makes a descriptor lead somewhere else. For commands that the shell runs itself, what
the descriptors led to is kept and put back afterwards.

* `Redirection.apply`: carry out redirections. `Redirection.undo`: put back what was kept.
-/

namespace Stepwise.Machine.Shell.Redirection

/-- A descriptor that was redirected, and the one at which what it led to is kept. -/
structure Kept where
  descriptor : Nat
  copy : Option Nat

/-- Why a redirection is not possible. -/
inductive Fault where
  | cannotOpen (path : Raw) (fault : SystemFault)
  | cannotCreate (path : Raw) (fault : SystemFault)
  | badDescriptor (number : Raw)

/-- A fault in words. -/
def Fault.message : Fault → Raw
  | .cannotOpen path fault => "cannot open ".toList ++ path ++ ": ".toList ++
      (match fault with
        | .notFound | .notDirectory => "No such file".toList
        | e => Utility.faultWords e)
  | .cannotCreate path fault => "cannot create ".toList ++ path ++ ": ".toList ++
      (match fault with
        | .notFound | .notDirectory => "Directory nonexistent".toList
        | e => Utility.faultWords e)
  | .badDescriptor number => number ++ ": Bad file descriptor".toList

/-- Keep what a descriptor leads to. -/
def keep (descriptor : Nat) : Task Kept :=
  Task.system fun process k =>
    let copy := k.freeDescriptor process Kernel.firstOwnDescriptor
    match k.duplicate process descriptor copy with
    | .ok k => (k, { descriptor, copy := some copy })
    | .error _ => (k, { descriptor, copy := none })

/-- Put back what was kept, the last first. -/
def undo (kept : List Kept) : Task Unit :=
  Task.change fun process k => kept.reverse.foldl (fun k kept =>
    match kept.copy with
    | none => k.close process kept.descriptor
    | some copy => match k.duplicate process copy kept.descriptor with
      | .ok k => k.close process copy
      | .error _ => k) k

/-- Let go of what was kept. -/
def forget (kept : List Kept) : Task Unit :=
  Task.change fun process k => kept.foldl (fun k kept => match kept.copy with
    | some copy => k.close process copy
    | none => k) k

/-- Make a descriptor lead to a file. -/
def openFile (descriptor : Nat) (path : Raw) (access : Access) : Task (Option Fault) := do
  let opened ← Task.attempt fun process k =>
    (k.openPath process path.toBytes access).map fun (k, file) =>
      (k.install process descriptor file, ())
  match opened with
  | .ok () => return none
  | .error e => return some (if access = .read then .cannotOpen path e else .cannotCreate path e)

/-- Make a descriptor lead to a new file, or to one whose content goes. An existing file is kept if
an option says so. -/
def createFile (descriptor : Nat) (path : Raw) : Sh (Option Fault) := do
  let taken ← Task.files fun tree directory => match tree.find directory path.toBytes with
    | .ok (.file _) => true
    | _ => false
  if taken && (← get).hasOption 'C' then return some (.cannotCreate path .exists)
  openFile descriptor path .write

/-- Make a descriptor lead to where another one leads, or close it. -/
def duplicate (i : Interpreter) (descriptor : Nat) (target : Raw) : Sh (Option Fault) := do
  match target, Raw.toNat? target with
  | ['-'], _ =>
    Task.change fun process k => k.close process descriptor
    return none
  | _, some source =>
    match ← Task.attempt fun process k =>
        (k.duplicate process source descriptor).map fun k => (k, ()) with
    | .ok () => return none
    | .error _ => return some (.badDescriptor target)
  | _, none => i.fail "Syntax error: Bad fd number".toList

/-- Make a descriptor lead to a text. -/
def document (descriptor : Nat) (text : Raw) : Task Unit :=
  Task.change fun process k =>
    let (k, source, sink) := k.pipe process
    let k := match k.write process sink text with
      | some (k, _) => k
      | none => k
    let k := match k.duplicate process source descriptor with
      | .ok k => k
      | .error _ => k
    (k.close process source).close process sink

/-- Carry out a redirection. -/
def applyOne (i : Interpreter) : Redirect → Sh (Option Fault)
  | .mk descriptor kind word => do
    let target ← Expansion.text i word
    match kind with
    | .read => openFile descriptor target .read
    | .write => createFile descriptor target
    | .overwrite => openFile descriptor target .write
    | .append => openFile descriptor target .append
    | .readWrite => openFile descriptor target .readWrite
    | .duplicate => duplicate i descriptor target
    | .document =>
      document descriptor target
      return none

/-- The descriptor of a redirection. -/
def descriptorOf : Redirect → Nat
  | .mk descriptor _ _ => descriptor

/-- Carry out redirections up to one that is not possible. What the descriptors led to is kept. -/
def apply (i : Interpreter) : List Redirect → List Kept → Sh (List Kept × Option Fault)
  | [], kept => return (kept, none)
  | r :: rs, kept => do
    let kept := kept ++ [← keep (descriptorOf r)]
    match ← applyOne i r with
    | none => apply i rs kept
    | some fault => return (kept, some fault)

/-- Run a piece of work with redirections, and put everything back; without it if one is not
possible. -/
def around (i : Interpreter) (redirects : List Redirect) (work : Sh Unit) : Sh Unit := do
  let (kept, fault) ← apply i redirects []
  match fault with
  | none => work
  | some fault =>
    Sh.warn fault.message
    Sh.setStatus 2
  undo kept

end Stepwise.Machine.Shell.Redirection
