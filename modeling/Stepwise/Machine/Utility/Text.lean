import Stepwise.Machine.Format
import Stepwise.Machine.Utility.Basic

/-!
# Programs that work on text

Programs that print, cut, sort and count. Text is a sequence of bytes, and order is the order of
bytes.
-/

namespace Stepwise.Machine.Utility

/-! ## Printing -/

/-- Print the arguments. -/
def echo : Program := fun program => do
  let isOption (word : Raw) : Bool := match word with
    | '-' :: c :: cs => (c :: cs).all fun c => c = 'n' || c = 'e' || c = 'E'
    | _ => false
  let options := program.arguments.takeWhile isOption
  let line := Raw.join [' '] (program.arguments.drop options.length)
  let letters := options.flatten
  let escapes := (letters.reverse.find? fun c => c = 'e' || c = 'E') = some 'e'
  let (text, stops) := if escapes then Format.unescape line else (line, false)
  put program (if stops || letters.contains 'n' then text else text ++ ['\n'])
  return 0

/-- What is wrong with an argument of a format. -/
def faultOfNumber (fault : Format.NumberFault) : Raw :=
  Raw.ofString (match fault with
    | .notNumber => ": expected a numeric value"
    | .partly => ": value not completely converted"
    | .outOfRange => ": Numerical result out of range")

/-- Print by a format. -/
def printf : Program := fun program => do
  match if program.arguments.head? = some ['-', '-'] then program.arguments.drop 1
      else program.arguments with
  | [] => misused program 1 (Raw.ofString "missing operand")
  | format :: arguments =>
    let filled := Format.print format arguments
    filled.faults.forM fun (argument, fault) =>
      complain program (quoted argument ++ faultOfNumber fault)
    put program filled.output
    if let some argument := filled.arguments.head? then
      if !filled.stops && filled.broken.isNone then
        complain program
          (Raw.ofString "warning: ignoring excess arguments, starting with " ++ quoted argument)
    if let some directive := filled.broken then
      let text := match directive with | .unfinished text | .unknown text => text
      complain program (text ++ Raw.ofString ": invalid conversion specification")
    return codeOf (filled.broken.isSome || !filled.faults.isEmpty)

/-- Print a line again and again. -/
def repeatLine (program : Start) (block : Raw) : Nat → Task Nat
  | 0 => return 0
  | fuel + 1 => do
    put program block
    repeatLine program block fuel

def yes : Program := fun program =>
  let line :=
    (if program.arguments.isEmpty then ['y'] else Raw.join [' '] program.arguments) ++ ['\n']
  repeatLine program (List.replicate (8192 / line.length) line).flatten blockLimit

/-- A decimal number by its digits and the places behind its point. -/
structure Places where
  digits : Int
  places : Nat

/-- The decimal number that a text writes. -/
def Places.ofRaw? (text : Raw) : Option Places :=
  let (sign, unsigned) : Int × Raw := match text with
    | '-' :: cs => (-1, cs)
    | '+' :: cs => (1, cs)
    | cs => (1, cs)
  let (digits, places, length) := Format.pointed 10 unsigned
  let (exponent, more) := Format.exponentPart 'e' (unsigned.drop length)
  if length = 0 || length + more ≠ unsigned.length || 400 < exponent.natAbs then none
  else
    let moved := (places : Int) - exponent
    some { digits := sign * digits * Nat.pow 10 (-moved).toNat, places := moved.toNat }

/-- The digits of a number when it has more places. -/
def Places.scaled (n : Places) (places : Nat) : Int := n.digits * Nat.pow 10 (places - n.places)

/-- Digits with a point in front of the last `places` ones. -/
def placesText (places : Nat) (digits : Int) : Raw :=
  (if digits < 0 then ['-'] else []) ++ Format.withPoint false places digits.natAbs

/-- A text with zeros behind its sign, up to a width. -/
def padZeros (width : Nat) (text : Raw) : Raw :=
  let zeros := List.replicate (width - text.length) '0'
  match text with
  | '-' :: digits => '-' :: zeros ++ digits
  | digits => zeros ++ digits

/-- The numbers from the first to the last one. -/
def countUp (first step last : Places) : List Int :=
  let places := max first.places (max step.places last.places)
  let start := first.scaled places
  let count := Int.fdiv (last.scaled places - start) (step.scaled places) + 1
  -- What is shown has no more places than the first number and the step have.
  let scale : Int := Nat.pow 10 (places - max first.places step.places)
  (List.range count.toNat).map fun (i : Nat) => (start + step.scaled places * i) / scale

/-- Print numbers. -/
def seq : Program := fun program =>
  -- A number below zero is no option.
  let isOption (word : Raw) : Bool := match word with
    | '-' :: c :: _ => !c.isDigit && c ≠ '.'
    | _ => false
  let table : OptionTable :=
    { plain := "w", valued := "sf", mixed := false
      long := [("equal-width", 'w'), ("separator", 's'), ("format", 'f')] }
  let front := program.arguments.takeWhile isOption
  let taken := match (table.sort front) with
    | .ok _ => front.length
    | .error _ => front.length + 1
  match table.sort (program.arguments.take taken) with
  | .error message => misused program 1 message
  | .ok options => do
    let operands := options.operands ++ program.arguments.drop taken
    let separator := (options.value? 's').getD ['\n']
    let print (first step last : Places) : Task Nat := do
      if step.digits = 0 then
        let shown := operands.getD 1 []
        misused program 1 (Raw.ofString "invalid Zero increment value: " ++ quoted shown)
      else
        let places := max first.places step.places
        let lines := (countUp first step last).map (placesText places)
        let width := (lines.map (·.length)).foldl max 0
        let set (line : Raw) : Raw := match options.value? 'f' with
          | some format => (Format.print format [line]).output
          | none => if options.has 'w' then padZeros width line else line
        if !lines.isEmpty then put program (Raw.join separator (lines.map set) ++ ['\n'])
        return 0
    match operands.find? fun operand => (Places.ofRaw? operand).isNone with
    | some operand =>
      misused program 1 (Raw.ofString "invalid floating point argument: " ++ quoted operand)
    | none =>
      let one : Places := { digits := 1, places := 0 }
      match operands.filterMap Places.ofRaw? with
      | [last] => print one one last
      | [first, last] => print first one last
      | [first, step, last] => print first step last
      | [] => misused program 1 (Raw.ofString "missing operand")
      | _ => misused program 1 (Raw.ofString "extra operand " ++ quoted (operands.getD 3 []))

/-! ## Copying -/

/-- Copy blocks from an input as they come. -/
def copyBlocks (program : Start) (descriptor : Nat) : Nat → Task (Except SystemFault Unit)
  | 0 => return .ok ()
  | fuel + 1 => do
    match ← Task.read descriptor Task.blockSize with
    | .error e => return .error e
    | .ok [] => return .ok ()
    | .ok block =>
      put program block
      copyBlocks program descriptor fuel

/-- Copy each input. -/
def copyInputs (program : Start) : List Raw → Task Bool
  | [] => return false
  | name :: names => do
    match ← withInput name fun descriptor => copyBlocks program descriptor blockLimit with
    | .ok () => copyInputs program names
    | .error e =>
      complain program (name ++ ": ".toList ++ faultWords e)
      let _ ← copyInputs program names
      return true

/-- Copy the standard input to the output and to files. -/
def teeBlocks (program : Start) (descriptors : List Nat) : Nat → Task Nat
  | 0 => return 0
  | fuel + 1 => do
    match ← Task.read 0 Task.blockSize with
    | .error _ | .ok [] => return 0
    | .ok block =>
      put program block
      descriptors.forM fun d => do
        let _ ← Task.write d block
      teeBlocks program descriptors fuel

/-- Open files at descriptors of the program's own. -/
def openAll (program : Start) (access : Access) : List Raw → Task (List Nat)
  | [] => return []
  | name :: names => do
    let opened ← Task.attempt fun process k =>
      (k.openPath process name.toBytes access).map fun (k, file) =>
        let descriptor := k.freeDescriptor process Kernel.firstOwnDescriptor
        (k.install process descriptor file, descriptor)
    match opened with
    | .ok d => return d :: (← openAll program access names)
    | .error e =>
      complain program (name ++ ": ".toList ++ faultWords e)
      openAll program access names

def tee : Program := withOptions { plain := "ai" } 1 fun program options => do
  let descriptors ← openAll program (if options.has 'a' then .append else .write) options.operands
  let _ ← teeBlocks program descriptors blockLimit
  return codeOf (descriptors.length < options.operands.length)

/-! ## Parts of inputs -/

/-- A text up to the end of a number of lines. -/
def takeLines : Nat → Raw → Raw
  | 0, _ => []
  | _, [] => []
  | n + 1, c :: cs => c :: takeLines (if c = '\n' then n else n + 1) cs
termination_by _ text => text.length

/-- What follows a number of lines. -/
def dropLines : Nat → Raw → Raw
  | 0, text => text
  | _, [] => []
  | n + 1, c :: cs => dropLines (if c = '\n' then n else n + 1) cs
termination_by _ text => text.length

/-- How many lines a text has; the last one need not be ended. -/
def lineCount (text : Raw) : Nat := (Raw.lines text).length

/-- A number with the suffix of a size. -/
def size? (text : Raw) : Option Nat :=
  let digits := text.takeWhile Char.isDigit
  match text.drop digits.length with
  | [] => Raw.toNat? digits
  | ['k'] | ['K'] => (Raw.toNat? digits).map (· * 1024)
  | ['M'] => (Raw.toNat? digits).map (· * 1024 * 1024)
  | ['k', 'B'] => (Raw.toNat? digits).map (· * 1000)
  | _ => none

/-- Options of the old form, a number behind a dash, written as a count of lines. -/
def withoutOldCount (arguments : List Raw) : List Raw :=
  match arguments with
  | ('-' :: c :: cs) :: rest =>
    if (c :: cs).all Char.isDigit then ['-', 'n'] :: (c :: cs) :: rest else arguments
  | _ => arguments

/-- Print a part of each input, with its name above if there are several. -/
def printParts (program : Start) (enough : Raw → Bool) (part : Raw → Raw) (named first : Bool) :
    List Raw → Task Bool
  | [] => return false
  | name :: names => do
    match ← withInput name fun d => readUntil d enough with
    | .ok content =>
      let title := if name = ['-'] then "standard input".toList else name
      let above := if named then (if first then [] else ['\n']) ++ "==> ".toList ++ title ++
        " <==\n".toList else []
      put program (above ++ part content)
      printParts program enough part named false names
    | .error e =>
      complain program (match e with
        | .isDirectory => "error reading ".toList ++ quoted name ++ ": ".toList ++ faultWords e
        | _ => "cannot open ".toList ++ quoted name ++ " for reading: ".toList ++ faultWords e)
      let _ ← printParts program enough part named first names
      return true

/-- The options of programs that print a part of their inputs. -/
def partOptions : OptionTable where
  plain := "qvfFz"
  valued := "nc"
  long := [("lines", 'n'), ("bytes", 'c'), ("quiet", 'q'), ("verbose", 'v')]

/-- Whether the names of inputs are printed. -/
def namesInputs (options : Options) : Bool :=
  options.has 'v' || (1 < options.operands.length && !options.has 'q')

def head : Program := fun program =>
  let run := withOptions partOptions 1 fun program options => do
    let counts (how : String) (text : Raw) (bytes : Bool) : Task Nat := do
      let (butLast, digits) := match text with
        | '-' :: digits => (true, digits)
        | digits => (false, digits)
      match size? digits with
      | none => fail program 1 (Raw.ofString how ++ quoted text)
      | some n =>
        let part (content : Raw) : Raw := match bytes, butLast with
          | true, false => content.take n
          | true, true => content.take (content.length - n)
          | false, false => takeLines n content
          | false, true => takeLines (lineCount content - n) content
        let enough (content : Raw) : Bool := !butLast &&
          (if bytes then n ≤ content.length else n ≤ content.count '\n')
        return codeOf (← printParts program enough part (namesInputs options) true
          (inputNames options.operands))
    match options.last? ['n', 'c'] with
    | some 'c' => counts "invalid number of bytes: " ((options.value? 'c').getD []) true
    | _ => counts "invalid number of lines: " ((options.value? 'n').getD ['1', '0']) false
  run { program with arguments := withoutOldCount program.arguments }

def tail : Program := fun program =>
  let run := withOptions partOptions 1 fun program options => do
    let counts (how : String) (text : Raw) (bytes : Bool) : Task Nat := do
      let (fromStart, digits) := match text with
        | '+' :: digits => (true, digits)
        | '-' :: digits => (false, digits)
        | digits => (false, digits)
      match size? digits with
      | none => fail program 1 (Raw.ofString how ++ quoted text)
      | some n =>
        let part (content : Raw) : Raw := match bytes, fromStart with
          | true, false => content.drop (content.length - n)
          | true, true => content.drop (n - 1)
          | false, false => dropLines (lineCount content - n) content
          | false, true => dropLines (n - 1) content
        return codeOf (← printParts program (fun _ => false) part (namesInputs options) true
          (inputNames options.operands))
    match options.last? ['n', 'c'] with
    | some 'c' => counts "invalid number of bytes: " ((options.value? 'c').getD []) true
    | _ => counts "invalid number of lines: " ((options.value? 'n').getD ['1', '0']) false
  run { program with arguments := withoutOldCount program.arguments }

/-- Ranges of positions, such as `1,3-5,7-`. -/
def positions? (text : Raw) : Option (List (Nat × Option Nat)) :=
  (Raw.splitOn ',' text).mapM fun piece => match Raw.splitOn '-' piece with
    | [a] => (Raw.toNat? a).map fun n => (n, some n)
    | [a, b] =>
      let first := if a.isEmpty then some 1 else Raw.toNat? a
      if b.isEmpty then first.map (·, none) else do return (← first, some (← Raw.toNat? b))
    | _ => none

/-- Whether a position is in one of some ranges. -/
def inPositions (ranges : List (Nat × Option Nat)) (i : Nat) : Bool :=
  ranges.any fun (a, b) => a ≤ i && b.all (i ≤ ·)

/-- The pieces at some positions. -/
def select {α : Type} (ranges : List (Nat × Option Nat)) (pieces : List α) : List α :=
  ((pieces.zipIdx 1).filter fun (_, i) => inPositions ranges i).map (·.1)

def cut : Program := withOptions { plain := "sn", valued := "dfcb" } 1 fun program options => do
  let delimiter := ((options.value? 'd').bind List.head?).getD '\t'
  match options.last? ['f', 'c', 'b'] with
  | none =>
    misused program 1 (Raw.ofString "you must specify a list of bytes, characters, or fields")
  | some kind => match positions? ((options.value? kind).getD []) with
    | none => misused program 1 (Raw.ofString "invalid field value")
    | some ranges =>
      let line (text : Raw) : List Raw :=
        if kind ≠ 'f' then [select ranges text]
        else if !text.contains delimiter then if options.has 's' then [] else [text]
        else [Raw.join [delimiter] (select ranges (Raw.splitOn delimiter text))]
      let (inputs, failed) ← readInputs program (inputNames options.operands)
      put program (Raw.unlines ((inputs.flatMap fun (_, c) => Raw.lines c).flatMap line))
      return codeOf failed

/-- The value of an operand such as `bs=512`. -/
def operandValue? (program : Start) (name : String) : Option Raw :=
  let front := name.toList ++ ['=']
  (program.arguments.reverse.find? (front.isPrefixOf ·)).map (·.drop front.length)

/-- Copy blocks of a size from an input to an output. -/
def dd : Program := fun program => do
  let number (name : String) (default : Nat) : Nat :=
    ((operandValue? program name).bind size?).getD default
  let size := max 1 (number "bs" (number "ibs" 512))
  let count := ((operandValue? program "count").bind size?)
  let skipped := number "skip" 0
  let enough (content : Raw) : Bool := count.any fun n => (n + skipped) * size ≤ content.length
  let source := (operandValue? program "if").getD ['-']
  let failOpen (name : Raw) (e : SystemFault) : Task Nat :=
    fail program 1 ("failed to open ".toList ++ quoted name ++ ": ".toList ++ faultWords e)
  match ← withInput source fun d => readUntil d enough with
  | .error e => failOpen source e
  | .ok content =>
    let content := content.drop (skipped * size)
    let content := match count with
      | some n => content.take (n * size)
      | none => content
    let finish : Task Nat := do
      let status := (operandValue? program "status").getD []
      let blocks := Raw.ofNat (content.length / size) ++ '+' ::
        Raw.ofNat (if content.length % size = 0 then 0 else 1)
      if status ≠ "none".toList then
        Task.complain (blocks ++ " records in\n".toList ++ blocks ++ " records out\n".toList)
        if status ≠ "noxfer".toList then
          Task.complain (Raw.ofNat content.length ++ " bytes copied, 0 s, Infinity B/s\n".toList)
      return 0
    match operandValue? program "of" with
    | none =>
      put program content
      finish
    | some name =>
      let opened ← Task.attempt fun process k =>
        (k.openPath process name.toBytes .write).map fun (k, file) =>
          let descriptor := k.freeDescriptor process Kernel.firstOwnDescriptor
          (k.install process descriptor file, descriptor)
      match opened with
      | .error e => failOpen name e
      | .ok d =>
        let _ ← Task.write d content
        finish

/-! ## Order and counts -/

/-- The fields of a line from a number on. -/
def keyOf (separator : Option Char) (first : Nat) (last : Option Nat) (line : Raw) : Raw :=
  match separator with
  | some c =>
    let fields := (Raw.splitOn c line).drop (first - 1)
    Raw.join [c] (match last with
      | some n => fields.take (n + 1 - first)
      | none => fields)
  | none =>
    let rec skip : Nat → Raw → Raw
      | 0, text => text
      | n + 1, text => skip n ((text.dropWhile (· = ' ')).dropWhile (· ≠ ' '))
    let rest := skip (first - 1) line
    match last with
    | some n => rest.take (rest.length - (skip (n + 1 - first) rest).length)
    | none => rest

/-- The key that an option of `sort` names, and the letters at its end. -/
def sortKey (separator : Option Char) (text : Raw) : (Raw → Raw) × Raw :=
  let letters := text.filter Char.isAlpha
  let numbers := Raw.splitOn ',' (text.filter fun c => c.isDigit || c = ',')
  let number (i : Nat) : Option Nat := (numbers[i]?).bind Raw.toNat?
  (keyOf separator ((number 0).getD 1) (number 1), letters)

/-- The decimal number at the front of a line: its digits and the places behind the point. -/
def leadingNumber (line : Raw) : Int × Nat :=
  let text := line.dropWhile Raw.isSpace
  let (sign, unsigned) : Int × Raw := match text with
    | '-' :: cs => (-1, cs)
    | cs => (1, cs)
  let (digits, places, _) := Format.pointed 10 unsigned
  (sign * digits, places)

/-- The order of the numbers at the front of lines. -/
def numberLe (a b : Raw) : Bool :=
  let (m, p) := leadingNumber a
  let (n, q) := leadingNumber b
  m * Nat.pow 10 q ≤ n * Nat.pow 10 p

/-- Neighbours that are alike, as groups. -/
def groupAlike {α : Type} (alike : α → α → Bool) : List α → List (List α)
  | [] => []
  | a :: as => match groupAlike alike as with
    | (b :: bs) :: groups =>
      if alike a b then (a :: b :: bs) :: groups else [a] :: (b :: bs) :: groups
    | groups => [a] :: groups

def sort : Program := withOptions { plain := "rnufbdgiVscm", valued := "kto" } 2
    fun program options => do
  let keyed := (options.value? 'k').map (sortKey ((options.value? 't').bind List.head?))
  let letters := options.flags.map (·.1) ++ ((keyed.map (·.2)).getD [])
  let key (line : Raw) : Raw :=
    let line := match keyed with
      | some (key, _) => key line
      | none => line
    let line := if letters.contains 'b' then line.dropWhile (· = ' ') else line
    if letters.contains 'f' then line.map Char.toUpper else line
  let keyLe (a b : Raw) : Bool :=
    if letters.contains 'n' || letters.contains 'g' then numberLe (key a) (key b)
    else Raw.le (key a) (key b)
  let ordered (a b : Raw) : Bool := if letters.contains 'r' then keyLe b a else keyLe a b
  let le (a b : Raw) : Bool :=
    if !ordered a b then false
    else if !ordered b a || options.has 's' || options.has 'u' then true
    else if options.has 'r' then Raw.le b a else Raw.le a b
  let (inputs, failed) ← readInputs
    { program with name := program.name ++ ": cannot read".toList } (inputNames options.operands)
  let lines := (inputs.flatMap fun (_, c) => Raw.lines c).mergeSort le
  let lines := if options.has 'u' then
    (groupAlike (fun a b => ordered a b && ordered b a) lines).filterMap List.head? else lines
  match options.value? 'o' with
  | none => put program (Raw.unlines lines)
  | some name =>
    (← openAll program .write [name]).forM fun d => do
      let _ ← Task.write d (Raw.unlines lines)
  return if failed then 2 else 0

def uniq : Program := transforming { plain := "cdui" } fun options content =>
  let key (line : Raw) : Raw := if options.has 'i' then line.map Char.toLower else line
  let groups := groupAlike (fun a b => key a = key b) (Raw.lines content)
  let kept := groups.filter fun g =>
    (!options.has 'd' || 1 < g.length) && (!options.has 'u' || g.length = 1)
  Raw.unlines (kept.map fun g =>
    let count := Raw.ofNat g.length
    let line := g.headD []
    if options.has 'c' then List.replicate (7 - count.length) ' ' ++ count ++ ' ' :: line else line)

/-- How many words a text has. -/
def wordCount (text : Raw) : Nat :=
  (groupAlike (fun a b => Raw.isSpace a = Raw.isSpace b) text).countP fun g =>
    g.head?.any fun c => !Raw.isSpace c

/-- A line of counts in columns. -/
def countLine (width : Nat) (counts : List Nat) (name : Raw) : Raw :=
  let set (n : Nat) : Raw :=
    let digits := Raw.ofNat n
    List.replicate (width - digits.length) ' ' ++ digits
  Raw.join [' '] (counts.map set) ++ (if name = ['-'] then [] else ' ' :: name) ++ ['\n']

def wc : Program := withOptions { plain := "lwcm" } 1 fun program options => do
  let chosen := ['l', 'w', 'c'].filter fun c => options.has c || (c = 'c' && options.has 'm')
  let chosen := if chosen.isEmpty then ['l', 'w', 'c'] else chosen
  let names := inputNames options.operands
  let (inputs, failed) ← readInputs program names
  let counts (content : Raw) : List Nat := chosen.map fun
    | 'l' => content.count '\n'
    | 'w' => wordCount content
    | _ => content.length
  let total := (inputs.map fun (_, content) => content.length).foldl (· + ·) 0
  let width := if names.length = 1 && chosen.length = 1 then 1
    else if names.contains ['-'] then 7 else (Raw.ofNat total).length
  inputs.forM fun (name, content) => do
    put program (countLine width (counts content)
      (if options.operands.isEmpty then ['-'] else name))
  if 1 < names.length then
    put program (countLine width (counts (inputs.flatMap (·.2))) "total".toList)
  return codeOf failed

/-! ## Characters -/

/-- The characters of a set such as `a-z\n`. -/
def characterSet : Nat → Raw → Raw
  | 0, _ | _, [] => []
  | fuel + 1, '\\' :: cs =>
    let (value, n) := Format.escape false cs
    if n = 0 then match cs with
      | c :: cs => c :: characterSet fuel cs
      | [] => ['\\']
    else value ++ characterSet fuel (cs.drop n)
  | fuel + 1, '[' :: ':' :: cs =>
    let name := cs.takeWhile (· ≠ ':')
    let members := (List.range 128).map Char.ofNat |>.filter (inClass name)
    members ++ characterSet fuel (cs.drop (name.length + 2))
  | fuel + 1, a :: '-' :: b :: cs =>
    ((List.range (b.toNat + 1 - a.toNat)).map fun i => Char.ofNat (a.toNat + i)) ++
      characterSet fuel cs
  | fuel + 1, c :: cs => c :: characterSet fuel cs
where
  inClass (name : Raw) (c : Char) : Bool :=
    if name = "alpha".toList then c.isAlpha
    else if name = "digit".toList then c.isDigit
    else if name = "alnum".toList then c.isAlphanum
    else if name = "upper".toList then c.isUpper
    else if name = "lower".toList then c.isLower
    else if name = "space".toList then Raw.isSpace c
    else if name = "blank".toList then c = ' ' || c = '\t'
    else if name = "punct".toList then '!' ≤ c && c ≤ '~' && !c.isAlphanum
    else if name = "cntrl".toList then c < ' ' || c = '\x7f'
    else false

/-- One of each run of a character of a set. -/
def squeeze (set : Char → Bool) : Raw → Raw
  | a :: b :: cs => if a = b && set a then squeeze set (b :: cs) else a :: squeeze set (b :: cs)
  | cs => cs

/-- A character put in the place of another one of a set. The last one stands for all that
follow. -/
def replacement (source target : Raw) (c : Char) : Char :=
  match source.idxOf? c with
  | some i => (target[i]?).getD (target.getLast?.getD c)
  | none => c

def tr : Program := withOptions { plain := "dscCt" } 1 fun program options => do
  let complements := options.has 'c' || options.has 'C'
  let sets := options.operands.map fun text => characterSet (text.length + 1) text
  let inSource (c : Char) : Bool := (sets.headD []).contains c ≠ complements
  match ← readUntil 0 fun _ => false with
  | .error e => fail program 1 ("read error: ".toList ++ faultWords e)
  | .ok content => match sets, options.has 'd', options.has 's' with
    | [_], true, _ =>
      put program (content.filter fun c => !inSource c)
      return 0
    | [_], false, true =>
      put program (squeeze inSource content)
      return 0
    | [source, target], deletes, squeezes =>
      let change (c : Char) : Char := if complements then
          if inSource c then target.getLast?.getD c else c
        else replacement source target c
      let changed := if deletes then content.filter fun c => !inSource c else content.map change
      put program (if squeezes then squeeze target.contains changed else changed)
      return 0
    | [_], false, false =>
      misused program 1 ("missing operand after ".toList ++ quoted (options.operands.headD []))
    | _, _, _ => misused program 1 (Raw.ofString "missing operand")

def tac : Program := transforming {} fun _ content => Raw.unlines (Raw.lines content).reverse

def rev : Program := transforming {} fun _ content =>
  Raw.unlines ((Raw.lines content).map List.reverse)

end Stepwise.Machine.Utility
