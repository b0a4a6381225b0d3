import Stepwise.Machine.Activity

/-!
# Programs

A program is started with its name, its arguments and its variables, and is then a task that hands
over an exit code. This module holds what most programs of the machine share: reading options,
reading inputs, and complaining.
-/

namespace Stepwise.Machine

/-- What a program is started with. -/
structure Start where
  name : Raw
  arguments : List Raw
  /-- The variables, each as a name, a `=` and a value. -/
  environment : List Raw

/-- A program. -/
abbrev Program := Start → Task Nat

namespace Utility

/-! ## Options -/

/-- The arguments of a program, sorted. -/
structure Options where
  /-- The options in their order, with their values. -/
  flags : List (Char × Raw) := []
  operands : List Raw := []

namespace Options

def has (o : Options) (flag : Char) : Bool := o.flags.any (·.1 = flag)

/-- The last value of an option. -/
def value? (o : Options) (flag : Char) : Option Raw := (o.flags.reverse.lookup flag)

/-- All values of an option. -/
def values (o : Options) (flag : Char) : List Raw :=
  (o.flags.filter (·.1 = flag)).map (·.2)

/-- The last of some options. -/
def last? (o : Options) (flags : List Char) : Option Char :=
  ((o.flags.map (·.1)).filter (flags.contains ·)).getLast?

/-- Put an option in front. -/
def push (o : Options) (flag : Char) (value : Raw) : Options :=
  { o with flags := (flag, value) :: o.flags }

end Options

/-- The options that a program knows: those without and with a value, long names for them, and
whether the operands may stand between options. -/
structure OptionTable where
  plain : String := ""
  valued : String := ""
  long : List (String × Char) := []
  mixed : Bool := true

namespace OptionTable

/-- The options in an argument of several letters, and the letter whose value is the next
argument. -/
def letters (t : OptionTable) : Raw → Except Raw (List (Char × Raw) × Option Char)
  | [] => .ok ([], none)
  | c :: cs =>
    if t.valued.toList.contains c then
      if cs.isEmpty then .ok ([], some c) else .ok ([(c, cs)], none)
    else if t.plain.toList.contains c then
      (t.letters cs).map fun (flags, open?) => ((c, []) :: flags, open?)
    else .error (Raw.ofString "invalid option -- '" ++ [c, '\''])

/-- A long option, with its value if it stands in the same argument. -/
def longOption (t : OptionTable) (text : Raw) : Except Raw (Char × Option Raw) :=
  let name := text.takeWhile (· ≠ '=')
  let value := if name.length < text.length then some (text.drop (name.length + 1)) else none
  match t.long.find? fun (long, _) => long.toList = name with
  | some (_, c) => .ok (c, value)
  | none => .error (Raw.ofString "unrecognized option '--" ++ text ++ ['\''])

/-- Sort the arguments of a program. The first argument may be the value of an option, given with
what is wrong if there is no argument; an error says what is wrong. -/
def sortFrom (t : OptionTable) : Option (Char × Raw) → List Raw → Except Raw Options
  | none, [] => .ok {}
  | some (_, message), [] => .error message
  | some (c, _), value :: rest => (t.sortFrom none rest).map (·.push c value)
  | none, argument :: rest =>
    match argument with
    | ['-', '-'] => .ok { operands := rest }
    | '-' :: '-' :: text => (t.longOption text).bind fun (c, value) =>
      if value.isNone && t.valued.toList.contains c then
        t.sortFrom (some (c,
          Raw.ofString "option '--" ++ text ++ Raw.ofString "' requires an argument")) rest
      else (t.sortFrom none rest).map (·.push c (value.getD []))
    | '-' :: c :: cs => (t.letters (c :: cs)).bind fun (flags, open?) =>
      let waiting := open?.map fun c =>
        (c, Raw.ofString "option requires an argument -- '" ++ [c, '\''])
      (t.sortFrom waiting rest).map fun o => { o with flags := flags ++ o.flags }
    | operand =>
      if t.mixed then (t.sortFrom none rest).map fun o =>
        { o with operands := operand :: o.operands }
      else .ok { operands := operand :: rest }

/-- Sort the arguments of a program; an error says what is wrong with them. -/
def sort (t : OptionTable) (arguments : List Raw) : Except Raw Options := t.sortFrom none arguments

end OptionTable

/-! ## Complaints and output -/

/-- Words from strings and byte strings. -/
def words (pieces : List Raw) : Raw := pieces.flatten

/-- A word between quotes. -/
def quoted (word : Raw) : Raw := '\'' :: word ++ ['\'']

/-- The words of a fault. -/
def faultWords (fault : SystemFault) : Raw := Raw.ofString fault.words

/-- Complain about something as a program. -/
def complain (program : Start) (message : Raw) : Task Unit :=
  Task.complain (program.name ++ ": ".toList ++ message ++ ['\n'])

/-- Complain and hand over an exit code. -/
def fail (program : Start) (code : Nat) (message : Raw) : Task Nat := do
  complain program message
  return code

/-- Complain about the way in which a program is used. -/
def misused (program : Start) (code : Nat) (message : Raw) : Task Nat :=
  fail program code (message ++ Raw.ofString "\nTry '" ++ program.name ++
    Raw.ofString " --help' for more information.")

/-- Go on with the options of a program, or complain about them. -/
def withOptions (table : OptionTable) (code : Nat) (run : Start → Options → Task Nat) : Program :=
  fun program => match table.sort program.arguments with
    | .ok options => run program options
    | .error message => misused program code message

/-- Write output; a program that cannot ends. -/
def put (program : Start) (data : Raw) : Task Unit := do
  if data.isEmpty then return ()
  if let .error e ← Task.write 1 data then
    complain program (Raw.ofString "write error: " ++ faultWords e)
    Task.exit 1

/-! ## Input -/

/-- The most blocks that are read from one input. -/
def blockLimit : Nat := 1000000

/-- Read blocks until there is enough, or until the end. -/
def readBlocks (descriptor : Nat) (enough : Raw → Bool) : Nat → Raw → Task (Except SystemFault Raw)
  | 0, held => return .ok held
  | fuel + 1, held => do
    if enough held then return .ok held
    match ← Task.read descriptor Task.blockSize with
    | .error e => return .error e
    | .ok [] => return .ok held
    | .ok block => readBlocks descriptor enough fuel (held ++ block)

/-- Read a descriptor until there is enough. -/
def readUntil (descriptor : Nat) (enough : Raw → Bool) : Task (Except SystemFault Raw) :=
  readBlocks descriptor enough blockLimit []

/-- Do something with a descriptor that leads to an input: a file, or the standard input for `-`. -/
def withInput {α : Type} (name : Raw) (use : Nat → Task (Except SystemFault α)) :
    Task (Except SystemFault α) := do
  if name = ['-'] then return ← use 0
  let opened ← Task.attempt fun process k =>
    (k.openPath process name.toBytes .read).map fun (k, file) =>
      let descriptor := k.freeDescriptor process Kernel.firstOwnDescriptor
      (k.install process descriptor file, descriptor)
  match opened with
  | .error e => return .error e
  | .ok descriptor =>
    let result ← use descriptor
    Task.change fun process k => k.close process descriptor
    return result

/-- The inputs that operands name: the standard input if there are none. -/
def inputNames (operands : List Raw) : List Raw := if operands.isEmpty then [['-']] else operands

/-- All of an input. -/
def readInput (name : Raw) : Task (Except SystemFault Raw) :=
  withInput name fun descriptor => readUntil descriptor fun _ => false

/-- All of each input, with its name; a program complains about what it cannot read. The flag tells
whether it had to. -/
def readInputs (program : Start) : List Raw → Task (List (Raw × Raw) × Bool)
  | [] => return ([], false)
  | name :: names => do
    match ← readInput name with
    | .ok content =>
      let (others, failed) ← readInputs program names
      return ((name, content) :: others, failed)
    | .error e =>
      complain program (name ++ ": ".toList ++ faultWords e)
      let (others, _) ← readInputs program names
      return (others, true)

/-- The exit code of a program that did or did not have to complain. -/
def codeOf (failed : Bool) : Nat := if failed then 1 else 0

/-- A program that turns all its inputs into an output. -/
def transforming (table : OptionTable) (transform : Options → Raw → Raw) : Program :=
  withOptions table 1 fun program options => do
    let (inputs, failed) ← readInputs program (inputNames options.operands)
    put program (inputs.flatMap fun (_, content) => transform options content)
    return codeOf failed

end Utility

end Stepwise.Machine
