import Stepwise.Machine.Utility.Loading

/-!
# Programs that control processes

Programs that change the variables of other programs, wait, send signals, and run programs in
another way.
-/

namespace Stepwise.Machine.Utility

/-! ## Running a program -/

/-- Become a program; on failure complain with some words about its name, and end as usual for a
program that cannot be run. -/
def becomeOr (about : Raw → Raw) (loader : Loader) (program : Start)
    (words environment : List Raw) :
    Task Nat := do
  match words with
  | [] => return 0
  | name :: arguments =>
    let fault ← loader.executeNamed { name, arguments, environment }
    complain program (about name ++ ": ".toList ++ faultWords fault)
    return if fault = .notFound then 127 else 126

/-- Become a program, or complain about its name. -/
def become (loader : Loader) (program : Start) (words environment : List Raw) : Task Nat :=
  becomeOr quoted loader program words environment

/-- What programs say that run others. -/
def failedToRun (name : Raw) : Raw := "failed to run command ".toList ++ quoted name

/-- Run a program as a child, with some words if that fails. -/
def spawn (about : Raw → Raw) (loader : Loader) (program : Start) (words : List Raw) : Task Nat :=
  Task.fork (becomeOr about loader program words program.environment)

/-- Wait for the end of one of some children. -/
def awaitOne (children : List Nat) : Task (Nat × Ending) :=
  Task.await fun process k => (k.collect process children).map fun (k, child, ending) =>
    (k, child, ending)

/-! ## Variables -/

/-- The name in front of the `=` of a variable. -/
def variableName (text : Raw) : Raw := text.takeWhile (· ≠ '=')

/-- A list of variables with one more. -/
def setVariable (environment : List Raw) (text : Raw) : List Raw :=
  let name := variableName text
  if environment.any fun v => variableName v = name then
    environment.map fun v => if variableName v = name then text else v
  else environment ++ [text]

/-- Print the variables, or run a program with changed ones. -/
def env (loader : Loader) : Program := withOptions
    { plain := "iv0", valued := "uCS", mixed := false,
      long := [("ignore-environment", 'i'), ("unset", 'u'), ("null", '0')] } 125
    fun program options => do
  let dashed := options.operands.head? = some ['-']
  let operands := if dashed then options.operands.drop 1 else options.operands
  let start := if options.has 'i' || dashed then [] else program.environment
  let removed := options.values 'u'
  let start := start.filter fun v => !removed.contains (variableName v)
  let settings := operands.takeWhile (·.contains '=')
  let environment := settings.foldl setVariable start
  match operands.drop settings.length with
  | [] =>
    let ending : Raw := if options.has '0' then ['\x00'] else ['\n']
    put program (environment.flatMap (· ++ ending))
    return 0
  | words =>
    become loader { program with name := program.name } words environment

def printenv : Program := withOptions { plain := "0" } 2 fun program options => do
  if options.operands.isEmpty then
    put program (Raw.unlines program.environment)
    return 0
  else
    let values := options.operands.map fun name =>
      (program.environment.find? fun v => variableName v = name && v.contains '=').map fun v =>
        v.drop (name.length + 1)
    put program (Raw.unlines (values.filterMap id))
    return codeOf (values.any Option.isNone)

/-! ## Time -/

/-- A time in microseconds, written as a decimal number of seconds or with a unit. -/
def interval? (text : Raw) : Option Nat :=
  let unit? : Option (Raw × Nat) := match text.getLast? with
    | some 's' => some (text.dropLast, 1)
    | some 'm' => some (text.dropLast, 60)
    | some 'h' => some (text.dropLast, 3600)
    | some 'd' => some (text.dropLast, 86400)
    | some _ => some (text, 1)
    | none => none
  unit?.bind fun (number, unit) =>
    let pieces := Raw.splitOn '.' number
    let micros (digits : Raw) : Option Nat :=
      Raw.toNat? ((digits ++ List.replicate 6 '0').take 6)
    match pieces with
    | [whole] => (Raw.toNat? whole).map (· * unit * 1000000)
    | [whole, behind] => do
      let w ← if whole.isEmpty then some 0 else Raw.toNat? whole
      if whole.isEmpty && behind.isEmpty then none
      return (w * 1000000 + (← micros behind)) * unit
    | _ => none

/-- A time that does not end in any run. -/
def endless : Nat := Nat.pow 10 15

def sleep : Program := fun program => do
  if program.arguments.isEmpty then return ← misused program 1 (Raw.ofString "missing operand")
  let time (word : Raw) : Option Nat :=
    if word = "infinity".toList || word = "inf".toList then some endless else interval? word
  match program.arguments.find? fun word => (time word).isNone with
  | some word =>
    misused program 1 (Raw.ofString "invalid time interval " ++ quoted word)
  | none =>
    Task.sleep ((program.arguments.filterMap time).foldl (· + ·) 0)
    return 0

/-- End in the way in which a child ended. -/
def endLike : Ending → Task Nat
  | .exited code => return code
  | .killed signal => do
    Task.change fun process k => ((k.arrange process signal none).sendTo signal process).1
    return 128 + signal

/-- Wait for a child for some time; its ending if it ended by then. -/
def awaitFor (child time : Nat) : Task (Option Ending) := do
  let clock ← Task.fork do
    Task.sleep time
    return 0
  let (first, ending) ← awaitOne [child, clock]
  if first ≠ child then return none
  Task.change fun _ k => (k.sendTo Signal.kill clock).1
  return some ending

/-- Send a signal to a child and to the own group, and survive it if that is possible. -/
def signalAll (signal : Signal) (child : Nat) : Task Unit :=
  Task.change fun process k =>
    let k := k.arrange process signal (some .ignored)
    let own := ((k.process? process).map (·.group)).getD process
    ((k.sendTo signal child).1.sendGroup signal own).1

/-- Run a program, and end it after a time. The program and what it starts are a group of their
own. -/
def timeout (loader : Loader) : Program := withOptions
    { plain := "vfp", valued := "sk", mixed := false,
      long := [("signal", 's'), ("kill-after", 'k'), ("verbose", 'v'), ("foreground", 'f'),
        ("preserve-status", 'p')] } 125 fun program options => do
  match options.operands with
  | time :: word :: words =>
    let limits := (interval? time, (options.value? 'k').elim (some 0) interval?)
    match limits with
    | (some time, some killTime) =>
      let signal := ((options.value? 's').bind Signal.parse?).getD Signal.terminate
      if !options.has 'f' then
        Task.change fun process k => k.modify process fun p => { p with group := process }
      let child ← spawn failedToRun loader program (word :: words)
      if time = 0 then return ← endLike (← awaitOne [child]).2
      match ← awaitFor child time with
      | some ending => endLike ending
      | none =>
        signalAll signal child
        let ending ← if killTime = 0 then pure (← awaitOne [child]).2
          else match ← awaitFor child killTime with
            | some ending => pure ending
            | none =>
              signalAll Signal.kill child
              pure (← awaitOne [child]).2
        return if options.has 'p' then ending.status
          else if ending = .killed Signal.kill then 137 else 124
    | (time?, _) =>
      let bad := if time?.isNone then time else (options.value? 'k').getD []
      misused program 125 (Raw.ofString "invalid time interval " ++ quoted bad)
  | _ =>
    Task.complain ("Try '".toList ++ program.name ++
      Raw.ofString " --help' for more information.\n")
    return 125

/-! ## Signals -/

/-- Send a signal to processes; those with a negative number are groups. -/
def sendAll (complaint : Raw → Task Unit) (signal : Signal) : List Raw → Task Nat
  | [] => return 0
  | word :: words => do
    let sent ← match Raw.toInt? word with
      | none =>
        complaint (Raw.ofString "Illegal number: " ++ word)
        pure false
      | some n =>
        let found ← Task.system fun process k =>
          if n = 0 then k.sendGroup signal (((k.process? process).map (·.group)).getD 0)
          else if n < 0 then k.sendGroup signal n.natAbs else k.sendTo signal n.natAbs
        if !found then complaint (Raw.ofString "No such process")
        pure found
    let code ← sendAll complaint signal words
    return if sent then code else 1

/-- The signal that the arguments of `kill` name, and the processes. -/
def killArguments (arguments : List Raw) : Except Raw (Signal × List Raw) :=
  let named (name : Raw) (rest : List Raw) : Except Raw (Signal × List Raw) :=
    match Signal.parse? name with
    | some s => .ok (s, rest)
    | none => .error name
  match arguments with
  | ['-', '-'] :: rest => .ok (Signal.terminate, rest)
  | ['-', 's'] :: name :: rest =>
    named name (if rest.head? = some ['-', '-'] then rest.drop 1 else rest)
  | ('-' :: name) :: rest => named name (if rest.head? = some ['-', '-'] then rest.drop 1 else rest)
  | rest => .ok (Signal.terminate, rest)

def kill : Program := fun program => do
  match killArguments program.arguments with
  | .ok (signal, words) =>
    if words.isEmpty then return ← fail program 1 (Raw.ofString "not enough arguments")
    sendAll (complain program) signal words
  | .error name => fail program 1 (Raw.ofString "unknown signal: " ++ name)

/-! ## Other ways to run a program -/

/-- Run a program that does not notice the end of its terminal. -/
def nohup (loader : Loader) : Program := fun program => do
  Task.change fun process k => k.arrange process Signal.hangup (some .ignored)
  becomeOr failedToRun loader program program.arguments program.environment

/-- Run a program in a group of its own. -/
def setsid (loader : Loader) : Program := withOptions { plain := "cfw", mixed := false } 1
    fun program options => do
  let leads ← Task.observe fun process k => (k.process? process).any (·.group = process)
  let start : Task Nat := do
    Task.change fun process k => k.modify process fun p => { p with group := process }
    becomeOr ("failed to execute ".toList ++ ·) loader program options.operands program.environment
  if leads || options.has 'f' then
    let child ← Task.fork start
    if options.has 'w' then return (← awaitOne [child]).2.status else return 0
  else start

/-- Run a program as it is, whatever the options say. -/
def plainly (valued : String) (loader : Loader) : Program :=
  withOptions { plain := "", valued, mixed := false } 125 fun program options =>
    become loader program options.operands program.environment

/-- Words in groups of a size. -/
def chunksOf (size : Nat) : Nat → List Raw → List (List Raw)
  | 0, _ | _, [] => []
  | fuel + 1, words => words.take size :: chunksOf size fuel (words.drop size)

/-- A word with a mark replaced wherever it stands. The number bounds the length. -/
def replaceAll (mark value : Raw) : Nat → Raw → Raw
  | 0, text => text
  | _, [] => []
  | fuel + 1, c :: cs =>
    if !mark.isEmpty && mark.isPrefixOf (c :: cs) then
      value ++ replaceAll mark value fuel ((c :: cs).drop mark.length)
    else c :: replaceAll mark value fuel cs

/-- Run a program with the words of the standard input as arguments. -/
def xargs (loader : Loader) : Program := withOptions
    { plain := "rt0", valued := "nIdLP", mixed := false } 1 fun program options => do
  match ← readUntil 0 fun _ => false with
  | .error e => fail program 1 (faultWords e)
  | .ok content =>
    let command := if options.operands.isEmpty then ["echo".toList] else options.operands
    let calls : List (List Raw) := match options.value? 'I' with
      | some mark => (Raw.lines content).map fun line =>
        command.map fun word => replaceAll mark line (word.length + 1) word
      | none =>
        let words := if options.has '0' then (Raw.splitOn '\x00' content).filter (!·.isEmpty)
          else (Raw.splitOn ' ' (content.map fun c => if Raw.isSpace c then ' ' else c)).filter
            (!·.isEmpty)
        match (options.value? 'n').bind Raw.toNat? with
        | some n => (chunksOf (max n 1) words.length words).map (command ++ ·)
        | none => if words.isEmpty && options.has 'r' then [] else [command ++ words]
    calls.foldlM (fun code call => do
      let child ← spawn id loader program call
      let (_, ending) ← awaitOne [child]
      return if ending = .exited 0 then code else if ending.status = 127 then 127 else 123) 0

/-- Print the paths of programs. -/
def which : Program := withOptions { plain := "as" } 2 fun program options => do
  let searchPath := (program.valueOf? "PATH").getD defaultSearchPath
  let failed ← options.operands.foldlM (fun failed name => do
    let found ← Task.observe fun process k =>
      (candidates searchPath name).filter fun path => (Image.at k process path).isOk
    let shown := if options.has 'a' then found else found.take 1
    if !options.has 's' then put program (Raw.unlines shown)
    return failed || found.isEmpty) false
  return codeOf failed

/-- There is no terminal. -/
def tty : Program := fun program => do
  if program.arguments.isEmpty then put program "not a tty\n".toList
  return 1

/-- Print fixed words. -/
def answering (answer : List Raw → String) : Program := fun program => do
  put program (Raw.ofString (answer program.arguments) ++ ['\n'])
  return 0

end Stepwise.Machine.Utility
