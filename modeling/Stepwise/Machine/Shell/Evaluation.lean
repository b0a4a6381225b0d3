import Stepwise.Machine.Shell.Builtin

/-!
# Running commands

A command is run by its form. A simple command is a function, a command of the shell, or a program,
which runs in a process of its own unless nothing follows it.

* `Evaluation.run`: run a command.
* `interpreter`: all parts of a shell put together; the number bounds how deep commands are nested
  and how often loops go round.
-/

namespace Stepwise.Machine.Shell

namespace Evaluation

/-! ## Programs -/

/-- The words for a fault when a program is started. -/
def startWords : SystemFault → Raw
  | .notFound | .notDirectory => "not found".toList
  | e => Utility.faultWords e

/-- The status for a fault when a program is started. -/
def startStatus : SystemFault → Nat
  | .notFound | .notDirectory | .nameTooLong => 127
  | _ => 126

/-- The path of the program with a name, or why there is none. -/
def locate (name : Raw) : Sh (Except SystemFault Raw) := do
  if name.contains '/' then return .ok name
  let paths := candidates (((← get).valueOf? "PATH".toList).getD []) name
  Task.files fun tree directory =>
    paths.foldr (fun path otherwise =>
      match tree.find directory path.toBytes with
      | .ok .directory => match otherwise with
        | .ok found => .ok found
        | .error _ => .error .denied
      | .ok _ => .ok path
      | .error _ => otherwise) (.error .notFound)

/-- Become a program; if that is not possible, complain and hand over a status. -/
def become (i : Interpreter) (path name : Raw) (arguments environment : List Raw) : Sh Nat := do
  let fault ← i.loader.execute path { name, arguments, environment }
  let shell := "/bin/sh".toList
  let fault ← match fault with
    | .badProgram =>
      i.loader.execute shell { name := shell, arguments := path :: arguments, environment }
    | fault => pure fault
  Sh.warn (name ++ ": ".toList ++ startWords fault)
  return startStatus fault

/-- Run a program as a child, or become it if nothing follows. -/
def program (i : Interpreter) (last : Bool) (name : Raw) (arguments environment : List Raw) :
    Sh Nat := do
  match ← locate name with
  | .error fault =>
    Sh.warn (name ++ ": ".toList ++ startWords fault)
    return 127
  | .ok path =>
    let work : Sh Nat := become i path name arguments environment
    if last && (← get).traps.isEmpty then work
    else
      let ending ← Expansion.awaitChild (← Sh.fork work)
      Expansion.reportEnding ending
      return ending.status

/-! ## Assignments -/

/-- Give variables values for the time of a piece of work. -/
def withAssignments (i : Interpreter) (assignments : List (Raw × Raw)) (work : Sh Nat) :
    Sh Nat := do
  let before ← get
  assignments.forM fun (name, value) => do
    Expansion.assignVariable i name value
    modify fun s => s.exportVariable name
  let status ← work
  modify fun s => assignments.foldl (fun s (name, _) =>
    s.restore name (before.vars.lookup name)) s
  return status

/-- Expand the values of assignments; each one sees those before it. -/
def values (i : Interpreter) : List (Raw × Word) → Sh (List (Raw × Raw))
  | [] => return []
  | (name, word) :: rest => do
    let value ← Expansion.text i word
    let before ← get
    modify fun s => s.assign name value
    let others ← values i rest
    modify fun s => s.restore name (before.vars.lookup name)
    return (name, value) :: others

/-! ## Functions and commands of the shell -/

/-- Run a function with arguments. -/
def call (i : Interpreter) (body : Script) (arguments : List Raw) : Sh Nat := do
  let before ← get
  set { before with parameters := arguments, loops := 0, locals := [] :: before.locals }
  i.run false false body
  modify fun s =>
    let frame := s.locals.headD []
    let s := frame.foldl (fun s (name, binding) => s.restore name binding) s
    { s with
      parameters := before.parameters
      loops := before.loops
      locals := before.locals
      jump := if s.jump = some .leaveFunction then none else s.jump }
  return (← get).status

/-- What a name means to the shell, in a sentence or as it would be written. -/
def describe (sentence : Bool) (name : Raw) : Sh (Raw × Bool) := do
  let s ← get
  let say (words : String) : Raw := name ++ Raw.ofString words
  if Reader.reserved.any (·.toList = name) then
    return (if sentence then say " is a shell keyword" else name, true)
  if s.functions.any (·.1 = name) then
    return (if sentence then say " is a shell function" else name, true)
  if Builtin.special.any (·.1.toList = name) || name = "exec".toList then
    return (if sentence then say " is a special shell builtin" else name, true)
  if Builtin.isKnown name then
    return (if sentence then say " is a shell builtin" else name, true)
  match ← locate name with
  | .ok path =>
    let exists? ← Task.files fun tree directory => match tree.find directory path.toBytes with
      | .ok _ => true
      | .error _ => false
    if exists? then
      return (if sentence then say " is " ++ path else path, true)
    else return (if sentence then say ": not found" else [], false)
  | .error _ => return (if sentence then say ": not found" else [], false)

/-- Print what names mean. -/
def describeAll (sentence : Bool) (names : List Raw) : Sh Nat :=
  names.foldlM (fun code name => do
    let (text, found) ← describe sentence name
    let _ ← Sh.put (if text.isEmpty then [] else text ++ ['\n'])
    return if found then code else 127) 0

/-- Become a program, or keep redirections. -/
def exec (i : Interpreter) (arguments environment : List Raw) : Sh Nat := do
  match arguments with
  | [] => return 0
  | name :: arguments =>
    let status ← match ← locate name with
      | .ok path => become i path name arguments environment
      | .error fault =>
        Sh.warn (name ++ ": ".toList ++ startWords fault)
        pure (startStatus fault)
    i.quit status
    return status

/-- Whether the redirections of a command stay. -/
def keepsRedirections (name : Raw) (arguments : List Raw) : Bool :=
  name = "exec".toList && arguments.isEmpty

/-- Say which of some names are those of no command. -/
def hash (names : List Raw) : Sh Nat :=
  names.foldlM (fun code name => do
    let (_, found) ← describe false name
    if !found then Sh.warn (name ++ ": not found".toList)
    return if found then code else 1) 0

/-- Run a command of the shell under its name. An error ends the shell if `strict` says so, and the
command otherwise. -/
def builtin (i : Interpreter) (strict : Bool) (name : Raw) (work : Interpreter → Sh Nat) :
    Sh Nat := do
  let outer := (← get).about
  modify fun s => { s with about := name }
  let status ← if strict then work i else
    Sh.escapable fun leave => work { i with abandon := leave }
  modify fun s => { s with about := outer }
  return status

/-- Run a command that is no function. `strict` says whether errors in special commands end the
shell. -/
def ordinary (i : Interpreter) (last strict : Bool) (assignments : List (Raw × Raw)) (name : Raw)
    (arguments : List Raw) : Sh Nat := do
  let environment : Sh (List Raw) := do
    let s ← get
    return (assignments.foldl (fun s (name, value) =>
      (s.assign name value).exportVariable name) s).environment
  if name = "exec".toList then
    let environment ← environment
    return ← builtin i strict name fun i => exec i arguments environment
  if name = "type".toList then return ← describeAll true arguments
  if name = "hash".toList then return ← builtin i false name fun _ => hash arguments
  match Builtin.find? name with
  | some (command, true) =>
    assignments.forM fun (name, value) => Expansion.assignVariable i name value
    builtin i strict name fun i => command i arguments
  | some (command, false) =>
    withAssignments i assignments (builtin i false name fun i => command i arguments)
  | none =>
    assignments.forM fun (target, _) => do
      if (← get).isFixed target then i.fail (Expansion.complaint target "is read only")
    program i last name arguments (← environment)

/-- Run a command by its name and arguments. -/
def named (i : Interpreter) (last : Bool) (assignments : List (Raw × Raw)) (name : Raw)
    (arguments : List Raw) : Sh Nat := do
  let isSpecial := Builtin.special.any (·.1.toList = name)
  let functions := (← get).functions
  match if isSpecial then none else functions.lookup name with
  | some body => withAssignments i assignments (call i body arguments)
  | none =>
    if name ≠ "command".toList then ordinary i last true assignments name arguments
    else match arguments with
      | ['-', 'v'] :: names => describeAll false (names.take 1)
      | ['-', 'V'] :: names => describeAll true (names.take 1)
      | ['-', 'p'] :: name :: arguments => ordinary i last false assignments name arguments
      | ['-', '-'] :: name :: arguments => ordinary i last false assignments name arguments
      | name :: arguments => ordinary i last false assignments name arguments
      | [] => return 0

/-! ## Simple commands -/

/-- Show a command before it is run, if the option for that is set. -/
def trace (assignments : List (Raw × Raw)) (fields : List Raw) : Sh Unit := do
  let s ← get
  if s.hasOption 'x' then
    let words := assignments.map (fun (name, value) => name ++ '=' :: value) ++ fields
    Task.complain ((s.valueOf? "PS4".toList).getD [] ++ Raw.join [' '] words ++ ['\n'])

/-- Whether an error in a command's redirections ends the shell. -/
def isStrict (name : Raw) : Bool :=
  Builtin.special.any (·.1.toList = name) || name = "exec".toList

/-- Run a simple command. -/
def simple (i : Interpreter) (last : Bool) (line : Nat) (assignments : List (Raw × Word))
    (words : List Word) (redirects : List Redirect) : Sh Unit := do
  modify fun s => { s with line, substitutionStatus := 0 }
  let fields ← Expansion.words i words
  let assigned ← values i assignments
  trace assigned fields
  let (kept, fault) ← Redirection.apply i redirects []
  if let some fault := fault then
    Sh.warn fault.message
    Redirection.undo kept
    if fields.head?.any isStrict then
      i.quit 2
    Sh.setStatus 2
    return ()
  match fields with
  | [] =>
    assigned.forM fun (name, value) => Expansion.assignVariable i name value
    Redirection.undo kept
    modify fun s => { s with status := s.substitutionStatus }
  | name :: arguments =>
    let status ← named i last assigned name arguments
    if keepsRedirections name arguments then Redirection.forget kept else Redirection.undo kept
    Sh.setStatus status

/-! ## Compound commands -/

/-- The end of the process of a part of a command. -/
def finish (i : Interpreter) : Sh Nat := do
  let status := (← get).status
  i.quit status
  return status

/-- Make the standard descriptors lead to the ends of pipes. -/
def connect (source sink : Option Nat) (unused : List Nat) : Task Unit :=
  Task.change fun process k =>
    let move (k : Kernel) (descriptor : Option Nat) (target : Nat) : Kernel :=
      match descriptor with
      | none => k
      | some d => match k.duplicate process d target with
        | .ok k => k.close process d
        | .error _ => k
    unused.foldl (fun k d => k.close process d) (move (move k source 0) sink 1)

/-- Make the standard input empty. -/
def withoutInput : Task Unit :=
  Task.change fun process k =>
    k.install process 0 (Kernel.openFor (.device .null) .read)

/-- Ignore for good the signals that people send from a keyboard. -/
def inBackground : Sh Unit := do
  Task.change fun process k =>
    (k.arrange process Signal.interrupt (some .ignored)).arrange process Signal.quit (some .ignored)
  modify fun s => { s with ignored := Signal.interrupt :: Signal.quit :: s.ignored }

/-- Start the processes of a pipeline. The first one reads from a descriptor if one is given. -/
def start (i : Interpreter) (tested background : Bool) : Option Nat → List Script → Sh (List Nat)
  | _, [] => return []
  | source, c :: cs => do
    let ends ← if cs.isEmpty then pure none else
      some <$> Task.system fun process k =>
        let (k, source, sink) := k.pipe process
        (k, source, sink)
    let child ← Sh.fork do
      if background then
        inBackground
        if source.isNone then withoutInput
      connect source (ends.map (·.2)) (ends.map (·.1)).toList
      i.run true tested c
      finish i
    Task.change fun process k =>
      (source.toList ++ (ends.map (·.2)).toList).foldl (fun k d => k.close process d) k
    return child :: (← start i tested background (ends.map (·.1)) cs)

/-- Wait for the processes of a pipeline; the status is that of the last one. -/
def awaitAll : List Nat → Nat → Sh Nat
  | [], status => return status
  | child :: children, _ => do
    let ending ← Expansion.awaitChild child
    Expansion.reportEnding ending
    awaitAll children ending.status

/-- Remember processes that run in the background. -/
def remember (processes : List Nat) : Sh Unit :=
  modify fun s =>
    let number := (s.jobs.map (·.number)).foldl max 0 + 1
    { s with
      jobs := s.jobs ++ [{ processes, number }]
      background := processes.getLast?
      status := 0 }

/-- Look at a jump at the end of a round of a loop: whether the loop ends. -/
def endsLoop : Sh Bool := do
  let s ← get
  match s.jump with
  | none => return false
  | some (.leaveLoops n) =>
    set { s with jump := if 1 < n then some (.leaveLoops (n - 1)) else none }
    return true
  | some (.nextRound n) =>
    set { s with jump := if 1 < n then some (.nextRound (n - 1)) else none }
    return 1 < n
  | some .leaveFunction => return true

/-- A loop inside of which the count of loops is greater. -/
def inLoop (work : Sh Nat) : Sh Unit := do
  modify fun s => { s with loops := s.loops + 1 }
  let status ← work
  modify fun s => { s with loops := s.loops - 1, status }

/-- Run the body of a loop for each of some words. -/
def forWords (i : Interpreter) (tested : Bool) (name : Raw) (body : Script) :
    List Raw → Nat → Sh Nat
  | [], status => return status
  | word :: words, _ => do
    Expansion.assignVariable i name word
    i.run false tested body
    let status := (← get).status
    if ← endsLoop then return status
    forWords i tested name body words status

/-- The commands for a text: those of the first pattern that matches it. -/
def choose (i : Interpreter) (text : Raw) : List (List Word × Script) → Sh (Option Script)
  | [] => return none
  | (patterns, body) :: clauses => do
    if ← patterns.anyM fun word => return (← Expansion.pattern i word).accepts text then
      return some body
    choose i text clauses

/-- End the shell after a failure, if the option for that is set. -/
def checkFailure (i : Interpreter) (tested : Bool) : Sh Unit := do
  let s ← get
  if s.hasOption 'e' && !tested && s.status ≠ 0 && s.jump.isNone then i.quit s.status

/-- Run a command by its form. -/
def runForm (i : Interpreter) (last tested : Bool) : Script → Sh Unit
  | .nothing => return ()
  | .simple line assignments words redirects => do
    simple i last line assignments words redirects
    checkFailure i tested
  | .pipeline stages => do
    Sh.setStatus (← awaitAll (← start i tested false none stages) 0)
    checkFailure i tested
  | .negation c => do
    i.run false true c
    modify fun s => { s with status := if s.status = 0 then 1 else 0 }
  | .both a b => do
    i.run false true a
    let s ← get
    if s.jump.isNone && s.status = 0 then i.run last tested b
  | .either a b => do
    i.run false true a
    let s ← get
    if s.jump.isNone && s.status ≠ 0 then i.run last tested b
  | .sequence a b => do
    i.run false tested a
    if (← get).jump.isNone then i.run last tested b
  | .background (.pipeline stages) => do
    remember (← start i tested true none stages)
  | .background c => do
    remember (← start i tested true none [c])
  | .subshell body => do
    if last && (← get).traps.isEmpty then i.run true tested body
    else
      let child ← Sh.fork do
        i.run true tested body
        finish i
      Sh.setStatus (← awaitAll [child] 0)
    checkFailure i tested
  | .redirected line body redirects => do
    modify fun s => { s with line }
    Redirection.around i redirects (i.run false tested body)
  | .branch condition yes no => do
    i.run false true condition
    let s ← get
    if s.jump.isSome then return ()
    if s.status = 0 then i.run last tested yes
    else
      Sh.setStatus 0
      i.run last tested no
  | .loop isUntil condition body => inLoop (i.rounds tested isUntil condition body 0)
  | .each name words body => do
    let fields ← match words with
      | some words => Expansion.words i words
      | none => pure (← get).parameters
    inLoop (forWords i tested name body fields 0)
  | .choice word clauses => do
    let text ← Expansion.text i word
    match ← choose i text clauses with
    | some body =>
      Sh.setStatus 0
      i.run last tested body
    | none => Sh.setStatus 0
  | .function name body =>
    modify fun s =>
      { s with functions := (name, body) :: s.functions.filter (·.1 ≠ name), status := 0 }

/-- Run a command, and the actions for signals that were caught meanwhile. -/
def run (i : Interpreter) (last tested : Bool) (script : Script) : Sh Unit := do
  if (← get).hasOption 'n' then return ()
  runForm i last tested script
  Running.traps i

/-- Run the rounds of a loop. -/
def rounds (i : Interpreter) (tested isUntil : Bool) (condition body : Script) (status : Nat) :
    Sh Nat := do
  i.run false true condition
  let s ← get
  if s.jump.isSome then
    if ← endsLoop then return status
    i.rounds tested isUntil condition body status
  else if (s.status == 0) == isUntil then return status
  else
    i.run false tested body
    let status := (← get).status
    if ← endsLoop then return status
    i.rounds tested isUntil condition body status

end Evaluation

/-- All parts of a shell put together. -/
def interpreter (loader : Loader) : Nat → Interpreter
  | 0 => {
      run := fun _ _ _ => Task.exit 2
      rounds := fun _ _ _ _ _ => Task.exit 2
      quit := fun status => Task.exit status
      abandon := fun status => Task.exit status
      loader }
  | fuel + 1 => {
      run := fun last tested script => Evaluation.run (interpreter loader fuel) last tested script
      rounds := fun tested isUntil condition body status =>
        Evaluation.rounds (interpreter loader fuel) tested isUntil condition body status
      quit := fun status => Running.quit (interpreter loader fuel) status
      abandon := fun status => do
        Running.quit (interpreter loader fuel) status
        Task.exit status
      loader }

end Stepwise.Machine.Shell
