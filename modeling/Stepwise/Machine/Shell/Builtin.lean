import Stepwise.Machine.Condition
import Stepwise.Machine.Shell.Running
import Stepwise.Machine.Utility.Control
import Stepwise.Machine.Utility.Files

/-!
# Commands of the shell itself

The commands that change the shell, or that it runs without starting a program. An error in one of
the special ones ends the shell.

* `Builtin.find?`: the command with a name.
-/

namespace Stepwise.Machine.Shell

/-- A command of the shell: given its arguments it hands over a status. -/
abbrev Builtin := Interpreter → List Raw → Sh Nat

namespace Builtin

/-- Complain about a number. -/
def badNumber (word : Raw) : Raw := "Illegal number: ".toList ++ word

/-- A number among the arguments of a special command. -/
def number (i : Interpreter) (word : Raw) : Sh Nat :=
  match Raw.toNat? word with
  | some n => return n
  | none => i.fail (badNumber word)

/-! ## Output -/

/-- Write the output of a command. -/
def output (name : String) (data : Raw) : Sh Nat := do
  if ← Sh.put data then return 0
  Sh.warn (Raw.ofString name ++ ": I/O error".toList)
  return 1

/-- The arguments of `echo` as one text, and whether one of them asks to stop. -/
def echoText : List Raw → Raw × Bool
  | [] => ([], false)
  | [word] => Format.unescape word
  | word :: words =>
    let (text, stops) := Format.unescape word
    if stops then (text, true)
    else
      let (others, stops) := echoText words
      (text ++ ' ' :: others, stops)

def echo : Builtin := fun _ arguments => do
  let bare := arguments.head? = some ['-', 'n']
  let (text, stops) := echoText (if bare then arguments.drop 1 else arguments)
  output "echo" (if bare || stops then text else text ++ ['\n'])

/-- What is wrong with an argument of a format. -/
def numberComplaint (argument : Raw) (fault : Format.NumberFault) : Raw :=
  argument ++ Raw.ofString (match fault with
    | .notNumber => ": expected numeric value"
    | .partly => ": not completely converted"
    | .outOfRange => ": Numerical result out of range")

/-- What is wrong with a directive of a format. -/
def directiveComplaint : Format.BadDirective → Raw
  | .unfinished _ => Raw.ofString "missing format character"
  | .unknown text => text ++ Raw.ofString ": invalid directive"

def printf : Builtin := fun _ arguments => do
  match if arguments.head? = some ['-', '-'] then arguments.drop 1 else arguments with
  | [] =>
    Sh.warn "usage: printf format [arg ...]".toList
    return 2
  | format :: arguments =>
    let filled := Format.print format arguments
    filled.faults.forM fun (argument, fault) => Sh.warn (numberComplaint argument fault)
    if let some directive := filled.broken then Sh.warn (directiveComplaint directive)
    let code ← output "printf" filled.output
    return if filled.broken.isSome then 2 else if filled.faults.isEmpty then code else 1

/-! ## Conditions -/

/-- Evaluate a condition. -/
def condition (words : List Raw) : Sh Nat := do
  let place ← Task.files fun tree directory =>
    ({ tree, directory, doubleEquals := false } : Condition.Place)
  match Condition.holds place words with
  | .ok holds => return if holds then 0 else 1
  | .error fault =>
    Sh.warn fault.message
    return 2

def test : Builtin := fun _ arguments => condition arguments

def bracket : Builtin := fun _ arguments => do
  if arguments.getLast? = some [']'] then condition arguments.dropLast
  else
    Sh.warn "missing ]".toList
    return 2

/-! ## Variables -/

/-- A text between quotes, so that a shell reads it back. -/
def quote (text : Raw) : Raw :=
  '\'' :: text.flatMap (fun c => if c = '\'' then "'\"'\"'".toList else [c]) ++ ['\'']

/-- Lines that show variables. -/
def showVariables (front : String) (shown : Shell.Binding → Bool) : Sh Raw := do
  let s ← get
  let vars := (s.vars.filter fun (_, v) => shown v).mergeSort fun a b => Raw.le a.1 b.1
  return vars.flatMap fun (name, v) => match v.value with
    | some value => Raw.ofString front ++ name ++ '=' :: quote value ++ ['\n']
    | none => if front.isEmpty then [] else Raw.ofString front ++ name ++ ['\n']

/-- Mark variables, perhaps with new values. -/
def mark (command : String) (shown : Shell.Binding → Bool)
    (change : Shell.Binding → Shell.Binding) :
    Builtin := fun i arguments => do
  let words := arguments.filter fun word => word ≠ ['-', 'p'] && word ≠ ['-', '-']
  if words.isEmpty then return ← output command (← showVariables (command ++ " ") shown)
  words.forM fun word => do
    let name := word.takeWhile (· ≠ '=')
    if !Raw.isName name then i.fail (name ++ ": bad variable name".toList)
    if name.length < word.length then
      Expansion.assignVariable i name (word.drop (name.length + 1))
    modify fun s => s.modifyVariable name change
  return 0

def exportCommand : Builtin := mark "export" (·.exported) fun v => { v with exported := true }

def readonlyCommand : Builtin := mark "readonly" (·.fixed) fun v => { v with fixed := true }

def unset : Builtin := fun i arguments => do
  let functions := arguments.head? = some ['-', 'f']
  let words :=
    if functions || arguments.head? = some ['-', 'v'] then arguments.drop 1 else arguments
  words.forM fun word => do
    if functions then
      modify fun s => { s with functions := s.functions.filter (·.1 ≠ word) }
    else
      if !Raw.isName word then i.fail (word ++ ": bad variable name".toList)
      if (← get).isFixed word then i.fail (word ++ ": is read only".toList)
      modify fun s => s.unset word
  return 0

def localCommand : Builtin := fun i arguments => do
  if (← get).locals.isEmpty then i.fail "not in a function".toList
  arguments.forM fun word => do
    let name := word.takeWhile (· ≠ '=')
    if !Raw.isName name then i.fail (name ++ ": bad variable name".toList)
    modify fun s => match s.locals with
      | frame :: frames =>
        if frame.any (·.1 = name) then s
        else { s with locals := ((name, s.vars.lookup name) :: frame) :: frames }
      | [] => s
    if name.length < word.length then
      Expansion.assignVariable i name (word.drop (name.length + 1))
  return 0

/-- The letters of options by their long names. The last three have no letter in commands. -/
def optionNames : List (String × Char) := [
  ("errexit", 'e'), ("noglob", 'f'), ("ignoreeof", 'I'), ("interactive", 'i'), ("monitor", 'm'),
  ("noexec", 'n'), ("stdin", 's'), ("xtrace", 'x'), ("verbose", 'v'), ("vi", 'V'), ("emacs", 'E'),
  ("noclobber", 'C'), ("allexport", 'a'), ("notify", 'b'), ("nounset", 'u'), ("privileged", 'p'),
  ("nolog", '1'), ("debug", '2')]

/-- The options as a list for people, or as commands that set them again. -/
def showOptions (asCommands : Bool) : Sh Raw := do
  let s ← get
  let line (name : String) (letter : Char) : String :=
    let isOn := s.hasOption letter
    if asCommands then "set " ++ (if isOn then "-o " else "+o ") ++ name
    else name ++ "".pushn ' ' (16 - name.length) ++ (if isOn then "on" else "off")
  let lines := optionNames.map fun (name, letter) => Raw.ofString (line name letter)
  return Raw.unlines (if asCommands then lines else "Current option settings".toList :: lines)

/-- Set an option or clear it. There is no terminal for job control. -/
def setOption (letter : Char) (on : Bool) : Sh Unit := do
  if letter = 'm' && on then Sh.warn "can't access tty; job control turned off".toList
  else modify fun s =>
    let others := s.options.filter (· ≠ letter)
    { s with options := if on then others ++ [letter] else others }

/-- Set the options that words name; what is left are parameters, if there are any. -/
def setOptions (i : Interpreter) : List Raw → Sh (Option (List Raw))
  | [] => return none
  | ['-', '-'] :: words => return some words
  | ['-'] :: words => return if words.isEmpty then none else some words
  | (sign :: letters) :: words => do
    if sign ≠ '-' && sign ≠ '+' || letters.isEmpty then return some ((sign :: letters) :: words)
    let on := sign = '-'
    letters.forM fun letter => do
      if letter ≠ 'o' then
        if letter.isDigit || !(optionNames.any (·.2 = letter)) then
          i.fail ("Illegal option ".toList ++ [sign, letter])
        setOption letter on
    match letters.contains 'o', words with
    | true, name :: words =>
      match optionNames.find? fun (long, _) => long.toList = name with
      | some (_, letter) => setOption letter on
      | none => i.fail ("Illegal option ".toList ++ [sign, 'o', ' '] ++ name)
      setOptions i words
    | true, [] =>
      let _ ← Sh.put (← showOptions (sign = '+'))
      return none
    | false, words => setOptions i words
  | [] :: words => return some ([] :: words)

def setCommand : Builtin := fun i arguments => do
  if arguments.isEmpty then return ← output "set" (← showVariables "" fun v => v.value.isSome)
  match ← setOptions i arguments with
  | some parameters => modify fun s => { s with parameters }
  | none => pure ()
  return 0

def shift : Builtin := fun i arguments => do
  let n ← match arguments with
    | word :: _ => number i word
    | [] => pure 1
  if (← get).parameters.length < n then i.fail "can't shift that many".toList
  modify fun s => { s with parameters := s.parameters.drop n }
  return 0

/-- The options that `getopts` knows, each with whether it has a value. -/
def takesValue? (options : Raw) (letter : Char) : Option Bool :=
  if letter = ':' then none
  else match options.dropWhile (· ≠ letter) with
    | _ :: ':' :: _ => some true
    | _ :: _ => some false
    | [] => none

def getopts : Builtin := fun i arguments => do
  match arguments with
  | options :: name :: words =>
    let s ← get
    let words := if words.isEmpty then s.parameters else words
    let index := ((s.valueOf? "OPTIND".toList).bind Raw.toNat?).getD 1
    let silent := options.head? = some ':'
    let finish (letter value : Raw) (index offset status : Nat) (keepsValue : Bool) : Sh Nat := do
      modify fun s =>
        let s := { s with optionOffset := offset }.assign "OPTIND".toList (Raw.ofNat index)
        if keepsValue then s.assign "OPTARG".toList value else s.unset "OPTARG".toList
      Expansion.assignVariable i name letter
      return status
    let word := (words[index - 1]?).getD []
    let offset := if s.optionOffset = 0 || word.length ≤ s.optionOffset then 1 else s.optionOffset
    match word[offset]? with
    | none => finish ['?'] [] index 0 1 false
    | some letter =>
      if word.head? ≠ some '-' then return ← finish ['?'] [] index 0 1 false
      if word = ['-', '-'] then return ← finish ['?'] [] (index + 1) 0 1 false
      let atEnd := word.length ≤ offset + 1
      let next := if atEnd then index + 1 else index
      let nextOffset := if atEnd then 0 else offset + 1
      match takesValue? options letter with
      | none =>
        if !silent then Task.complain ("Illegal option -".toList ++ [letter, '\n'])
        finish ['?'] [letter] next nextOffset 0 silent
      | some false => finish [letter] [] next nextOffset 0 false
      | some true =>
        if !atEnd then finish [letter] (word.drop (offset + 1)) (index + 1) 0 0 true
        else match words[index]? with
          | some value => finish [letter] value (index + 2) 0 0 true
          | none =>
            if silent then finish [':'] [letter] next 0 0 true
            else
              Task.complain ("No arg for -".toList ++
                [letter, ' ', 'o', 'p', 't', 'i', 'o', 'n', '\n'])
              finish ['?'] [] next 0 0 false
  | _ =>
    Sh.warn "Usage: getopts optstring var [arg...]".toList
    return 2

/-! ## Reading -/

/-- Read a line. Characters behind a backslash are marked as quoted, unless `plain` says not to. The
flag says whether the end of the line was found. -/
def readLine (plain : Bool) : Nat → List Marked → Task (List Marked × Bool)
  | 0, found => return (found.reverse, false)
  | fuel + 1, found => do
    match ← Task.read 0 1 with
    | .ok ['\n'] => return (found.reverse, true)
    | .ok ['\\'] =>
      if plain then readLine plain fuel (('\\', false) :: found)
      else match ← Task.read 0 1 with
        | .ok ['\n'] => readLine plain fuel found
        | .ok [c] => readLine plain fuel ((c, true) :: found)
        | _ => return (found.reverse, false)
    | .ok ['\x00'] => readLine plain fuel found
    | .ok [c] => readLine plain fuel ((c, false) :: found)
    | _ => return (found.reverse, false)

/-- Whether a character is a separator that is blank, or any separator. -/
def isSeparator (separators : Raw) (blank : Bool) (c : Marked) : Bool :=
  !c.2 && separators.contains c.1 && (!blank || Raw.isSpace c.1)

/-- The first field of a line, and what follows its separator. -/
def firstField (separators : Raw) (line : List Marked) : List Marked × List Marked :=
  let line := line.dropWhile (isSeparator separators true)
  let field := line.takeWhile fun c => !isSeparator separators false c
  let rest := (line.drop field.length).dropWhile (isSeparator separators true)
  let rest := match rest with
    | c :: cs => if isSeparator separators false c then cs.dropWhile (isSeparator separators true)
      else c :: cs
    | [] => []
  (field, rest)

/-- A line without separators at its ends, as the last of several variables takes it. -/
def lastField (separators : Raw) (line : List Marked) : List Marked :=
  let strip (line : List Marked) : List Marked :=
    (line.reverse.dropWhile (isSeparator separators true)).reverse
  let line := strip (line.dropWhile (isSeparator separators true))
  let (field, rest) := firstField separators line
  if rest.isEmpty then field else line

/-- The values of some variables in a line. -/
def distribute (separators : Raw) : List Raw → List Marked → List (Raw × Raw)
  | [], _ => []
  | [name], line => [(name, (lastField separators line).map (·.1))]
  | name :: names, line =>
    let (field, rest) := firstField separators line
    (name, field.map (·.1)) :: distribute separators names rest

def read : Builtin := fun i arguments => do
  match ({ plain := "r", valued := "p", mixed := false } : Utility.OptionTable).sort arguments with
  | .error _ =>
    Sh.warn "Illegal option".toList
    return 2
  | .ok options =>
    if let some prompt := options.value? 'p' then Task.complain prompt
    match options.operands with
    | [] =>
      Sh.warn "arg count".toList
      return 2
    | names =>
      if let some name := names.find? fun name => !Raw.isName name then
        Sh.warn (name ++ ": bad variable name".toList)
        return 2
      let (line, complete) ← readLine (options.has 'r') Utility.blockLimit []
      let separators := Expansion.separators (← get)
      (distribute separators names line).forM fun (name, value) =>
        Expansion.assignVariable i name value
      return if complete then 0 else 1

/-! ## Control -/

def colon : Builtin := fun _ _ => return 0

def no : Builtin := fun _ _ => return 1

/-- Leave loops, or begin their next round. -/
def leave (jump : Nat → Jump) : Builtin := fun i arguments => do
  let n ← match arguments with
    | word :: _ => number i word
    | [] => pure 1
  if n = 0 then i.fail (badNumber ['0'])
  let s ← get
  if s.loops ≠ 0 then set { s with jump := some (jump (min n s.loops)) }
  return 0

def returnCommand : Builtin := fun i arguments => do
  let status ← match arguments with
    | word :: _ => number i word
    | [] => pure (← get).status
  modify fun s => { s with jump := some .leaveFunction }
  return status

def exitCommand : Builtin := fun i arguments => do
  let status ← match arguments with
    | word :: _ => number i word
    | [] => pure (← get).status
  i.quit status
  return status

def eval : Builtin := fun i arguments => do
  Running.text i false (Raw.join [' '] arguments)
  return (← get).status

/-- Run a file in the shell. -/
def source : Builtin := fun i arguments => do
  match arguments with
  | [] => return 0
  | name :: _ =>
    let s ← get
    let paths := candidates ((s.valueOf? "PATH".toList).getD []) name
    let rec search : List Raw → Task (Option (Raw × Raw))
      | [] => return none
      | path :: paths => do
        match ← Utility.readInput path with
        | .ok content => return some (path, content)
        | .error _ => search paths
    match ← search paths with
    | some (path, content) =>
      modify fun s => { s with about := path }
      Running.text i false content
      modify fun s => if s.jump = some .leaveFunction then { s with jump := none } else s
      return (← get).status
    | none =>
      if name.contains '/' then i.fail ("cannot open ".toList ++ name ++ ": No such file".toList)
      else i.fail (name ++ ": not found".toList)

/-- The signal that an operand of `trap` names; 0 is the end of the shell. -/
def trapSignal? (word : Raw) : Option Signal :=
  if word = "EXIT".toList then some 0
  else if word.take 3 = "SIG".toList then none else Signal.parse? word

/-- Arrange for a signal: an action, nothing at all, or its usual effect. -/
def setTrap (action : Option Raw) (signal : Signal) : Sh Unit := do
  modify fun s =>
    let others := s.traps.filter (·.1 ≠ signal)
    { s with traps := match action with
        | some script => others ++ [(signal, script)]
        | none => others }
  if signal ≠ 0 && !(← get).ignored.contains signal then
    Task.change fun process k => k.arrange process signal (action.map fun script =>
      if script.isEmpty then .ignored else .caught)

def trap : Builtin := fun _ arguments => do
  let arguments := if arguments.head? = some ['-', '-'] then arguments.drop 1 else arguments
  match arguments with
  | [] =>
    let traps := (← get).traps.mergeSort fun a b => a.1 ≤ b.1
    output "trap" (traps.flatMap fun (signal, script) =>
      "trap -- ".toList ++ quote script ++ ' ' ::
        (if signal = 0 then "EXIT".toList else (signal.name?.getD (Raw.ofNat signal))) ++ ['\n'])
  | first :: rest =>
    let resets := rest.isEmpty || (Raw.toNat? first).isSome
    let action := if resets || first = ['-'] then none else some first
    (if resets then arguments else rest).foldlM (fun code word => do
      match trapSignal? word with
      | some signal =>
        setTrap action signal
        return code
      | none =>
        Task.complain ("trap: ".toList ++ word ++ ": bad trap\n".toList)
        return 1) 0

/-! ## Places and processes -/

/-- The places that a target of `cd` may mean, each with whether it is shown. -/
def places (s : Shell) (target : Raw) : List (Raw × Bool) :=
  let anchored := target.isEmpty || target.head? = some '/' ||
    ["".toList, ".".toList, "..".toList].contains (target.takeWhile (· ≠ '/'))
  match if anchored then none else s.valueOf? "CDPATH".toList with
  | none => [(target, false)]
  | some list => (Raw.splitOn ':' list).map (fun directory =>
      if directory.isEmpty then (target, false) else (directory ++ '/' :: target, true)) ++
        [(target, false)]

/-- Change the working directory to the first of some places that is one. -/
def enterFirst : List (Raw × Bool) → Sh (Option Bool)
  | [] => return none
  | (place, shown) :: others => do
    let changed ← Task.attempt fun process k => do
      let path ← k.tree.resolve (k.directoryOf process) place.toBytes
      match k.tree.entryAt? path with
      | some .directory => return (k.modify process fun p => { p with directory := path }, ())
      | _ => throw .notFound
    match changed with
    | .ok () => return some shown
    | .error _ => enterFirst others

/-- The status after changing the working directory. -/
def cd : Builtin := fun i arguments => do
  let words :=
    arguments.filter fun word => word ≠ ['-', '-'] && word ≠ ['-', 'P'] && word ≠ ['-', 'L']
  let s ← get
  let target := (match words with
    | [] => s.valueOf? "HOME".toList
    | ['-'] :: _ => s.valueOf? "OLDPWD".toList
    | word :: _ => some word).getD []
  let target := if target.isEmpty then ['.'] else target
  let old ← Utility.currentDirectory
  match ← enterFirst (places s target) with
  | none =>
    Sh.warn ("can't cd to ".toList ++ target)
    return 2
  | some shown =>
    let new ← Utility.currentDirectory
    Expansion.assignVariable i "OLDPWD".toList old
    Expansion.assignVariable i "PWD".toList new
    modify fun s => (s.exportVariable "OLDPWD".toList).exportVariable "PWD".toList
    if shown || words.head? = some ['-'] then return ← output "cd" (new ++ ['\n'])
    return 0

def pwd : Builtin := fun _ _ => do
  output "pwd" ((← Utility.currentDirectory) ++ ['\n'])

/-- The permissions that a mask leaves, in letters. -/
def permissions (mask : Nat) : Raw :=
  let letters (shift : Nat) : Raw :=
    (['r', 'w', 'x'].zip [4, 2, 1]).filterMap fun (letter, bit) =>
      if (mask / shift / bit) % 2 = 0 then some letter else none
  Raw.join [','] ((['u', 'g', 'o'].zip [64, 8, 1]).map fun (who, shift) =>
    who :: '=' :: letters shift)

def umask : Builtin := fun _ arguments => do
  let mask := (← get).mask
  match arguments with
  | [] => output "umask" (['0'] ++ (Nat.toDigits 8 (mask + 512)).drop 1 ++ ['\n'])
  | ['-', 'S'] :: _ => output "umask" (permissions mask ++ ['\n'])
  | word :: _ =>
    if !(word.headD 'u').isDigit then return 0
    if !word.all Format.isOctal then
      Sh.warn (badNumber word)
      return 2
    modify fun s => { s with mask := Format.ofDigits 8 word % 512 }
    return 0

/-- Show aliases, or make them. -/
def makeAlias : Builtin := fun _ arguments => do
  let show' (entry : Raw × Raw) : Raw := entry.1 ++ '=' :: quote entry.2 ++ ['\n']
  if arguments.isEmpty then return ← output "alias" ((← get).aliases.flatMap show')
  arguments.foldlM (fun code word => do
    let name := word.takeWhile (· ≠ '=')
    let aliases := (← get).aliases
    if name.length < word.length && !name.isEmpty then
      modify fun s => { s with
        aliases := aliases.filter (·.1 ≠ name) ++ [(name, word.drop (name.length + 1))] }
      return code
    else match aliases.lookup word with
      | some value =>
        let _ ← output "alias" (show' (word, value))
        return code
      | none =>
        Task.complain ("alias: ".toList ++ word ++ " not found\n".toList)
        return 1) 0

/-- Forget aliases. -/
def forgetAlias : Builtin := fun _ arguments => do
  if arguments.head? = some ['-', 'a'] then
    modify fun s => { s with aliases := [] }
    return 0
  arguments.foldlM (fun code word => do
    let aliases := (← get).aliases
    if aliases.any (·.1 = word) then
      modify fun s => { s with aliases := aliases.filter (·.1 ≠ word) }
      return code
    else
      Task.complain ("unalias: ".toList ++ word ++ " not found\n".toList)
      return 1) 0

def times : Builtin := fun _ _ =>
  let line := "0m0.000000s 0m0.000000s\n".toList
  output "times" (line ++ line)

/-- The job that a word behind a `%` names. -/
def jobOf? (s : Shell) (word : Raw) : Option Job :=
  match word with
  | [] | ['%'] | ['+'] => s.jobs.getLast?
  | ['-'] => s.jobs.dropLast.getLast?
  | digits => (Raw.toNat? digits).bind fun n => s.jobs.find? (·.number = n)

/-- The processes that an operand names: a number as it is, or the group of a job. -/
def processOf (s : Shell) (word : Raw) : Raw :=
  match word with
  | '%' :: name => match jobOf? s name with
    | some job => '-' :: Raw.ofNat (job.processes.headD 0)
    | none => word
  | word => word

/-- How far a job has come, in words. -/
def jobWords (job : Job) : Task (Raw × Bool) :=
  Task.observe fun process k =>
    let endings : List (Option Ending) := job.processes.map fun child =>
      (k.collect process [child]).map fun (_, _, ending) => ending
    if endings.any Option.isNone then ("Running".toList, false)
    else match endings.getLast?.join with
      | some (.killed signal) => (signal.words, true)
      | some (.exited code) =>
        (if code = 0 then "Done".toList else "Done(".toList ++ Raw.ofNat code ++ [')'], true)
      | none => ("Done".toList, true)

/-- Show what runs in the background; what has ended is shown for the last time. -/
def jobs : Builtin := fun _ _ => do
  let all := (← get).jobs
  all.reverse.forM fun job => do
    let (words, ended) ← jobWords job
    let mark := if some job.number = all.getLast?.map (·.number) then '+'
      else if some job.number = all.dropLast.getLast?.map (·.number) then '-' else ' '
    let front := '[' :: Raw.ofNat job.number ++ [']', ' ', mark, ' '] ++ words
    let _ ← Sh.put (front ++ List.replicate (33 - front.length) ' ' ++ ['\n'])
    if ended then modify fun s => { s with jobs := s.jobs.filter (·.number ≠ job.number) }
  return 0

/-- Jobs cannot be moved where there is no terminal. -/
def moveJob : Builtin := fun i arguments => do
  let s ← get
  let word := arguments.headD ['%', '%']
  if (jobOf? s (word.drop 1)).isSome then
    i.fail ("job ".toList ++ arguments.headD "(null)".toList ++
      " not created under job control".toList)
  else if arguments.isEmpty then i.fail "No current job".toList
  else i.fail ("No such job: ".toList ++ word)

def kill : Builtin := fun _ arguments => do
  match arguments with
  | [] =>
    Sh.warn ("Usage: kill [-s sigspec | -signum | -sigspec] [pid | job]... or\n" ++
      "kill -l [exitstatus]").toList
    return 2
  | ['-', 'l'] :: words =>
    match words with
    | [] =>
      output "kill"
        (Raw.unlines (['0'] :: (Signal.table.map fun (_, name, _) => Raw.ofString name)))
    | word :: _ => match Raw.toNat? word with
      | some n =>
        let signal : Signal := if 128 < n then n - 128 else n
        output "kill" ((signal.name?.getD (Raw.ofNat n)) ++ ['\n'])
      | none =>
        Sh.warn (badNumber word)
        return 2
  | _ => match Utility.killArguments arguments with
    | .error name =>
      Sh.warn ("Illegal option -".toList ++ name.take 1)
      return 2
    | .ok (signal, words) =>
      let s ← get
      let words := words.map (processOf s)
      if let some word := words.find? fun word => (Raw.toInt? word).isNone then
        Sh.warn (badNumber word)
        return 2
      Utility.sendAll (fun message =>
        (Sh.warn (message ++ ['\n'])).run' s) signal words

/-- Wait for a job: its status, or that of a signal that was caught before the job ended. -/
def awaitJob : List Nat → Option Ending → Task (Ending × Bool)
  | [], ending => return (ending.getD (.exited 0), false)
  | child :: children, _ => do
    let result ← Task.await fun process k =>
      match k.collect process [child] with
      | some (k, _, ending) => some (k, some ending)
      | none => if k.hasCaught process then some (k, none) else none
    match result with
    | some ending => awaitJob children (some ending)
    | none => return (.exited 0, true)

/-- The status of `wait` after a signal was caught. -/
def interrupted : Sh Nat := do
  let caught ← Task.observe fun process k =>
    ((k.process? process).map (·.caught)).getD []
  return 128 + caught.headD 0

/-- Wait for jobs; the flag says whether people are told of signals. -/
def awaitJobs (reports : Bool) : List Job → Nat → Sh Nat
  | [], status => return status
  | job :: jobs, _ => do
    let (ending, stopped) ← awaitJob job.processes none
    if stopped then interrupted
    else
      modify fun s => { s with
        jobs := s.jobs.filter (·.number ≠ job.number)
        settled := (job.processes.getLastD 0, ending.status) :: s.settled }
      if reports then Expansion.reportEnding ending
      awaitJobs reports jobs (if reports then ending.status else 0)

def wait : Builtin := fun _ arguments => do
  let s ← get
  if arguments.isEmpty then return ← awaitJobs false s.jobs 0
  arguments.foldlM (fun _ word => do
    match word, Raw.toNat? word with
    | '%' :: name, _ => match jobOf? s name with
      | some job => awaitJobs true [job] 0
      | none =>
        Sh.warn ("No such job: ".toList ++ word)
        return 2
    | _, none =>
      Sh.warn (badNumber word)
      return 2
    | _, some n => match s.jobs.find? fun job => job.processes.getLast? = some n with
      | some job => awaitJobs true [job] 0
      | none => return (s.settled.lookup n).getD 127) 0

/-! ## The table -/

/-- The special commands by their names. -/
def special : List (String × Builtin) := [
  (":", colon), (".", source), ("break", leave .leaveLoops),
  ("continue", leave .nextRound), ("eval", eval), ("exit", exitCommand),
  ("export", exportCommand), ("local", localCommand), ("readonly", readonlyCommand),
  ("return", returnCommand),
  ("set", setCommand), ("shift", shift), ("times", times), ("trap", trap), ("unset", unset)]

/-- The other commands by their names. -/
def usual : List (String × Builtin) := [
  ("[", bracket), ("alias", makeAlias), ("bg", moveJob), ("cd", cd), ("chdir", cd), ("echo", echo),
  ("false", no), ("fg", moveJob), ("getopts", getopts), ("jobs", jobs),
  ("kill", kill), ("printf", printf), ("pwd", pwd), ("read", read),
  ("test", test), ("true", colon), ("ulimit", colon), ("umask", umask), ("unalias", forgetAlias),
  ("wait", wait)]

/-- The command with a name, and whether it is a special one. -/
def find? (name : Raw) : Option (Builtin × Bool) :=
  match special.find? fun entry => entry.1.toList = name with
  | some (_, command) => some (command, true)
  | none =>
    (usual.find? fun entry => entry.1.toList = name).map fun (_, command) => (command, false)

/-- Whether a name is that of a command of the shell, also of one that runs other commands. -/
def isKnown (name : Raw) : Bool :=
  (find? name).isSome || name = "exec".toList || name = "command".toList ||
    name = "type".toList || name = "hash".toList

end Builtin

end Stepwise.Machine.Shell
