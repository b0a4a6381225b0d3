import Stepwise.Machine.Shell.Arithmetic
import Stepwise.Machine.Shell.Pattern
import Stepwise.Machine.Shell.State

/-!
# Expansion of words

A word becomes a list of fields in four steps: its parts are replaced by what they stand for, the
result is split at the separators of `IFS` where it was not quoted, each field that is a pattern is
replaced by the paths that it matches, and quotes go.

* `Expansion.words`: the fields of words.
* `Expansion.text`: a word as one text, as in assignments.
* `Expansion.pattern`: a word as a pattern.
-/

namespace Stepwise.Machine.Shell

/-- A piece of a word whose parts have been replaced. -/
inductive Piece where
  /-- A character; whether it is quoted, and whether it can separate fields. -/
  | char (c : Char) (quoted separates : Bool)
  /-- The end of a parameter among several, at which a field ends. -/
  | boundary
  /-- Quotes, which make a field even if there is nothing between them. -/
  | presence
  /-- Parameters of which there are none; quotes around them make no field. -/
  | absence

namespace Expansion

/-! ## Fields -/

/-- Fields as far as they have been found. -/
structure Fields where
  found : List (List Marked) := []
  /-- The characters of the current field, the last first. -/
  current : List Marked := []
  present : Bool := false
  absent : Bool := false
  /-- Whether a blank ended the last field. -/
  afterBlank : Bool := false

namespace Fields

/-- End the current field, whatever is in it. -/
def finish (f : Fields) : Fields :=
  { found := f.found ++ [f.current.reverse] }

/-- End the current field if there is one. -/
def flush (f : Fields) : Fields :=
  if !f.current.isEmpty || (f.present && !f.absent) then f.finish else { found := f.found }

/-- The fields after one more piece, given the separators. -/
def add (separators : Raw) (f : Fields) : Piece → Fields
  | .char c quoted separates =>
    if separates && !quoted && separators.contains c then
      if Raw.isSpace c then
        if f.current.isEmpty && !f.present then f else { f.finish with afterBlank := true }
      else if f.afterBlank && f.current.isEmpty && !f.present then { f with afterBlank := false }
      else f.finish
    else { f with current := (c, quoted) :: f.current, afterBlank := false }
  | .boundary => f.flush
  | .presence => { f with present := true, afterBlank := false }
  | .absence => { f with absent := true }

end Fields

/-- The fields that pieces make up. -/
def split (separators : Raw) (pieces : List Piece) : List (List Marked) :=
  (pieces.foldl (Fields.add separators) {}).flush.found

/-- The characters of pieces that are one text. -/
def marked (pieces : List Piece) : List Marked :=
  pieces.filterMap fun
    | .char c quoted _ => some (c, quoted)
    | .boundary => some (' ', true)
    | .presence | .absence => none

/-- The characters of a value. -/
def ofValue (value : Raw) (quoted : Bool) : List Piece :=
  value.map fun c => .char c quoted (!quoted)

/-! ## Parameters -/

/-- The separators of fields. -/
def separators (s : Shell) : Raw := (s.valueOf? "IFS".toList).getD " \t\n".toList

/-- All parameters, each as a field of its own. -/
def parameterFields (s : Shell) (quoted : Bool) : List Piece :=
  let fields := s.parameters.map fun p =>
    (if quoted then [Piece.presence] else []) ++ ofValue p quoted
  if fields.isEmpty then [.absence] else
    (fields.dropLast.flatMap (· ++ [.boundary])) ++ fields.getLastD []

/-- All parameters as one text. -/
def parameterText (s : Shell) : Raw :=
  let separator := match s.valueOf? "IFS".toList with
    | some ifs => ifs.take 1
    | none => [' ']
  Raw.join separator s.parameters

/-- The value of a parameter of one text. -/
def value? (s : Shell) (name : Raw) : Option Raw :=
  match name with
  | ['#'] => some (Raw.ofNat s.parameters.length)
  | ['?'] => some (Raw.ofNat s.status)
  | ['$'] => some (Raw.ofNat s.root)
  | ['!'] => s.background.map Raw.ofNat
  | ['-'] => some s.options
  | ['@'] | ['*'] => if s.parameters.isEmpty then none else some (parameterText s)
  | ['0'] => some s.name
  | _ => match Raw.toNat? name with
    | some n => s.parameters[n - 1]?
    | none => s.valueOf? name

/-- The pieces of a parameter, and whether it has a value. -/
def pieces (s : Shell) (name : Raw) (quoted : Bool) : List Piece × Bool :=
  match name with
  | ['@'] => (parameterFields s quoted, !s.parameters.isEmpty)
  | ['*'] => if quoted then (ofValue (parameterText s) true, !s.parameters.isEmpty)
    else (parameterFields s false, !s.parameters.isEmpty)
  | _ => match value? s name with
    | some value => (ofValue value quoted, true)
    | none => ([], false)

/-- The name of a parameter in messages. -/
def complaint (name : Raw) (what : String) : Raw := name ++ ": ".toList ++ Raw.ofString what

/-- Give a variable a value, unless it is fixed. -/
def assignVariable (i : Interpreter) (name value : Raw) : Sh Unit := do
  if (← get).isFixed name then i.fail (complaint name "is read only")
  modify fun s => s.assign name value

/-! ## Substitution -/

/-- A text without the line ends at its end. -/
def withoutLineEnds (text : Raw) : Raw := (text.reverse.dropWhile (· = '\n')).reverse

/-- Wait for the end of a child. -/
def awaitChild (child : Nat) : Sh Ending := do
  return (← Task.await fun process k => (k.collect process [child]).map fun (k, _, e) => (k, e) :)

/-- Say that a signal has ended a child, unless people expect it. -/
def reportEnding : Ending → Sh Unit
  | .killed signal => do
    if signal ≠ Signal.interrupt && signal ≠ Signal.pipe then
      Task.complain (signal.words ++ ['\n'])
  | .exited _ => return ()

/-- What a command writes. -/
def substitute (i : Interpreter) (script : Script) : Sh Raw := do
  let (source, sink) ← Task.system fun process k =>
    let (k, source, sink) := k.pipe process
    (k, source, sink)
  let child ← Sh.fork do
    Task.change fun process k =>
      let k := match k.duplicate process sink 1 with
        | .ok k => k
        | .error _ => k
      (k.close process source).close process sink
    i.run true false script
    i.quit (← get).status
    return 0
  Task.change fun process k => k.close process sink
  let output ← Utility.readUntil source fun _ => false
  Task.change fun process k => k.close process source
  let ending ← awaitChild child
  reportEnding ending
  modify fun s => { s with substitutionStatus := ending.status }
  match output with
  | .ok text => return withoutLineEnds (text.filter (· ≠ '\x00'))
  | .error _ => return []

/-- The value of an expression; the variables that it assigns are assigned. -/
def compute (i : Interpreter) (text : Raw) : Sh Raw := do
  let s ← get
  let result := do
    let e ← Arithmetic.parse text
    (e.eval s.valueOf?).run []
  match result with
  | .error fault => i.fail (fault.message text)
  | .ok (n, assigned) =>
    assigned.reverse.forM fun (name, n) => assignVariable i name (Raw.ofInt n)
    return Raw.ofInt n

/-! ## Parts -/

mutual

/-- The pieces of a part. The flag says whether its text can separate fields. -/
def part (i : Interpreter) (separates : Bool) : Part → Sh (List Piece)
  | .text content quoted =>
    return (if quoted then [.presence] else []) ++ content.map fun c =>
      .char c quoted (separates && !quoted)
  | .home => do
    let home := (← get).valueOf? "HOME".toList
    return (home.getD ['~']).map fun c => .char c true false
  | .parameter name use quoted => parameter i name quoted use
  | .substitution script quoted => do
    return ofValue (← substitute i script) quoted
  | .arithmetic expression quoted => do
    let text := (marked (← parts i false expression)).map (·.1)
    return ofValue (← compute i text) quoted

/-- The pieces of parts. -/
def parts (i : Interpreter) (separates : Bool) : List Part → Sh (List Piece)
  | [] => return []
  | p :: ps => do
    let first ← part i separates p
    return first ++ (← parts i separates ps)

/-- The pieces of a use of a parameter. -/
def parameter (i : Interpreter) (name : Raw) (quoted : Bool) : ParameterUse → Sh (List Piece)
  | .plain => do
    let s ← get
    let (found, isSet) := pieces s name quoted
    if !isSet && s.hasOption 'u' && name ≠ ['@'] && name ≠ ['*'] then
      i.fail (complaint name "parameter not set")
    return found
  | .length => do
    let s ← get
    if name = ['@'] || name = ['*'] then return ofValue (Raw.ofNat s.parameters.length) quoted
    match value? s name with
    | some value => return ofValue (Raw.ofNat value.length) quoted
    | none =>
      if s.hasOption 'u' then i.fail (complaint name "parameter not set")
      return ofValue ['0'] quoted
  | .fallback kind orEmpty word => do
    let s ← get
    let (found, isSet) := pieces s name quoted
    let has := isSet && !(orEmpty && (marked found).isEmpty)
    match kind with
    | .use => if has then return found else parts i (!quoted) word
    | .alternative => if has then parts i (!quoted) word else return []
    | .assign =>
      if has then return found
      let value := (marked (← parts i false word)).map (·.1)
      if !Raw.isName name then i.fail (complaint name "bad variable name")
      assignVariable i name value
      return ofValue value quoted
    | .fail =>
      if has then return found
      let message := (marked (← parts i false word)).map (·.1)
      if word.isEmpty then
        i.fail (complaint name
          (if orEmpty then "parameter not set or null" else "parameter not set"))
      else i.fail (name ++ ": ".toList ++ message)
  | .trim fromEnd longest word => do
    let s ← get
    let pattern := Pattern.ofMarked (marked (← parts i false word))
    match value? s name with
    | some value => return ofValue (Pattern.trim fromEnd longest pattern value) quoted
    | none =>
      if s.hasOption 'u' then i.fail (complaint name "parameter not set")
      return []
  | .invalid => i.fail "Bad substitution".toList

end

/-! ## Words -/

/-- A word as one text. -/
def text (i : Interpreter) (word : Word) : Sh Raw := do
  return (marked (← parts i false word)).map (·.1)

/-- A word as a pattern. -/
def pattern (i : Interpreter) (word : Word) : Sh Pattern := do
  return Pattern.ofMarked (marked (← parts i false word))

/-- The fields of a word. -/
def fields (i : Interpreter) (word : Word) : Sh (List Raw) := do
  let pieces ← parts i false word
  let s ← get
  let found := split (separators s) pieces
  if s.hasOption 'f' then return found.map (·.map (·.1))
  found.flatMapM fun field => do
    if !(Pattern.ofMarked field).isOpen then return [field.map (·.1)]
    let paths ← Task.files fun tree directory => Pattern.paths tree directory field
    return if paths.isEmpty then [field.map (·.1)] else paths

/-- The fields of words. -/
def words (i : Interpreter) : List Word → Sh (List Raw)
  | [] => return []
  | w :: ws => do
    let first ← fields i w
    return first ++ (← words i ws)

end Expansion

end Stepwise.Machine.Shell
