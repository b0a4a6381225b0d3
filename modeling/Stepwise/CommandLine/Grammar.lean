/-!
# Reading options

The words after a command's name are options and, after them, the command's own words. An option is
written `--name value` or `--name=value`; every option may be given once. Three options take no
value and are known everywhere: `--debug`, `--help` (also `-h`) and `--version` (also `-V`). The
word `--` ends the options.

A grammar says which options a command has, and what it does with words that start with a hyphen and
are no option: a command that runs other programs takes them for its own words or for a value.

* `Word.ofString`: what a word looks like.
* `Grammar.scan`: the options of a list of words, and the words after them.
-/

namespace Stepwise.CommandLine

/-- Why words are no request. -/
inductive UsageFault where
  | unknownOption (word : String)
  | missingValue (option : String)
  | refusedValue (option value : String)
  | unexpectedValue (option : String)
  | repeated (option : String)
  | missingOption (option : String)
  | unexpectedWord (word : String)
  | unknownCommand (word : String)
  | noCommand
  | noProgram
  deriving DecidableEq, Inhabited

/-- A usage fault in words. -/
def UsageFault.message : UsageFault → String
  | .unknownOption word => "unexpected argument '" ++ word ++ "'"
  | .missingValue option => "a value is required for '--" ++ option ++ "'"
  | .refusedValue option value => "invalid value '" ++ value ++ "' for '--" ++ option ++ "'"
  | .unexpectedValue option => "'--" ++ option ++ "' takes no value"
  | .repeated option => "'--" ++ option ++ "' cannot be used more than once"
  | .missingOption option => "'--" ++ option ++ "' is required"
  | .unexpectedWord word => "unexpected argument '" ++ word ++ "'"
  | .unknownCommand word => "unrecognized subcommand '" ++ word ++ "'"
  | .noCommand => "a subcommand is required"
  | .noProgram => "a program to run is required"

/-- Why reading stops before a request is found. -/
inductive Stop where
  | usage (fault : UsageFault)
  | help
  | version
  deriving DecidableEq, Inhabited

/-! ## Words -/

/-- What a word looks like. -/
inductive Word where
  | separator
  /-- The word `--name` or `--name=value`. -/
  | long (name : String) (value : Option String)
  /-- A hyphen and at least one letter. -/
  | short (letters : List Char)
  | plain
  deriving DecidableEq

/-- A long option, of the characters after its two hyphens. -/
def Word.ofLong (cs : List Char) : Word :=
  let name := cs.takeWhile (· ≠ '=')
  match cs.drop name.length with
  | [] => .long (String.ofList name) none
  | _ :: value => .long (String.ofList name) (some (String.ofList value))

/-- What a word looks like. -/
def Word.ofString (text : String) : Word :=
  match text.toList with
  | ['-', '-'] => .separator
  | '-' :: '-' :: cs => .ofLong cs
  | '-' :: c :: cs => .short (c :: cs)
  | _ => .plain

/-- The letters of options that take no value. -/
def isLetter (c : Char) : Bool := c = 'h' || c = 'V'

/-- Where a letter stops the reading. -/
def Stop.ofLetter (c : Char) (word : String) : Stop :=
  if c = 'h' then .help else if c = 'V' then .version else .usage (.unknownOption word)

/-! ## Grammars -/

/-- An option with a value, and what it does to the options read so far. -/
structure ValueOption (α : Type) where
  name : String
  assign : String → α → Except UsageFault α

/-- The options of a command. -/
structure Grammar (α : Type) where
  options : List (ValueOption α)
  /-- Whether words that start with a hyphen and are no option are values or the command's own. -/
  takesHyphens : Bool
  initial : α

/-- What the words of a command say. -/
structure Scanned (α : Type) where
  options : α
  debug : Bool
  /-- Whether `--` stands before the command's own words. -/
  separated : Bool
  /-- The command's own words. -/
  rest : List String

/-- The names of the options without a value. -/
def flagNames : List String := ["debug", "help", "version"]

namespace Grammar

variable {α : Type}

/-- The option of a name. -/
def optionAt? (g : Grammar α) (name : String) : Option (ValueOption α) :=
  g.options.find? (·.name = name)

/-- Whether a name is that of an option. -/
def knows (g : Grammar α) (name : String) : Bool :=
  name ∈ flagNames || (g.optionAt? name).isSome

/-- Whether a word may be the value of the option before it. -/
def isValue (g : Grammar α) (word : String) : Bool :=
  match Word.ofString word with
  | .plain => true
  | .separator => false
  | .long name _ => g.takesHyphens && !g.knows name
  | .short letters => g.takesHyphens && !letters.all isLetter

/-- Whether a word is one of the command's own although it starts with a hyphen. -/
def isOwn (g : Grammar α) (word : String) : Bool :=
  word ≠ "--" && g.isValue word

/-- Read an option that takes no value. -/
def flag (name : String) (value : Option String) (debug : Bool) : Except Stop Bool :=
  if value.isSome then .error (.usage (.unexpectedValue name))
  else if name = "help" then .error .help
  else if name = "version" then .error .version
  else if debug then .error (.usage (.repeated name))
  else .ok true

/-- Read the options of a list of words. -/
def scanFrom (g : Grammar α) : List String → α → Bool → Except Stop (Scanned α)
  | [], options, debug => .ok { options, debug, separated := false, rest := [] }
  | word :: words, options, debug =>
    if g.isOwn word then .ok { options, debug, separated := false, rest := word :: words }
    else match Word.ofString word with
    | .separator => .ok { options, debug, separated := true, rest := words }
    | .plain => .ok { options, debug, separated := false, rest := word :: words }
    | .short letters => .error (.ofLetter (letters.headD ' ') word)
    | .long name value =>
      if name ∈ flagNames then
        match flag name value debug with
        | .error stop => .error stop
        | .ok debug => g.scanFrom words options debug
      else match g.optionAt? name, value, words with
        | none, _, _ => .error (.usage (.unknownOption word))
        | some o, some value, words =>
          match o.assign value options with
          | .error fault => .error (.usage fault)
          | .ok options => g.scanFrom words options debug
        | some o, none, value :: words =>
          if g.isValue value then
            match o.assign value options with
            | .error fault => .error (.usage fault)
            | .ok options => g.scanFrom words options debug
          else .error (.usage (.missingValue name))
        | some _, none, [] => .error (.usage (.missingValue name))
termination_by words => words.length

/-- The options of a list of words, and the words after them. -/
def scan (g : Grammar α) (words : List String) : Except Stop (Scanned α) :=
  g.scanFrom words g.initial false

end Grammar

end Stepwise.CommandLine
