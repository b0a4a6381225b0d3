import Stepwise.Machine.Shell.Script

/-!
# Reading scripts

A script is read line by line: a line is one list of commands, which goes on over several lines as
long as a command is open. A syntax error is found when its line is read, so the lines before it are
run.

* `Reader.line`: the next list of commands of a script.
-/

namespace Stepwise.Machine.Shell

/-- Why a script cannot be read. -/
inductive SyntaxFault where
  | unterminatedQuote
  | missingBrace
  | missingParentheses
  | unterminatedSubstitution
  | badName
  | badFunctionName
  /-- A token stands where another one may be expected. -/
  | unexpected (token : String) (expecting : Option String)
  deriving Inhabited

/-- A syntax fault in words. -/
def SyntaxFault.message : SyntaxFault → String
  | .unterminatedQuote => "Unterminated quoted string"
  | .missingBrace => "Missing '\x7d'"
  | .missingParentheses => "Missing '))'"
  | .unterminatedSubstitution => "EOF in backquote substitution"
  | .badName => "Bad for loop variable"
  | .badFunctionName => "Bad function name"
  | .unexpected token none => token ++ " unexpected"
  | .unexpected token (some expected) => token ++ " unexpected (expecting " ++ expected ++ ")"

/-- What is left to read, and the number of its line. -/
structure Reading where
  rest : Raw
  line : Nat := 1
  /-- The number of lines that have been read out of turn, after the current line. -/
  ahead : Nat := 0
  /-- The words that stand for other texts at the beginning of a command. -/
  aliases : List (Raw × Raw) := []

/-- A reader of scripts. -/
abbrev Reader := ExceptT SyntaxFault (StateM Reading)

namespace Reader

/-! ## Characters and tokens -/

/-- What is left to read. -/
def rest : Reader Raw := return (← get).rest

/-- Go past `n` characters. -/
def skip (n : Nat) : Reader Unit :=
  modify fun s =>
    let ended := (s.rest.take n).count '\n'
    if ended = 0 then { s with rest := s.rest.drop n }
    else { s with rest := s.rest.drop n, line := s.line + ended + s.ahead, ahead := 0 }

/-- Whether a character ends a word. -/
def endsWord (c : Char) : Bool := c ∈ [' ', '\t', '\n', ';', '&', '|', '<', '>', '(', ')']

/-- Go past white space, joined lines and a comment. -/
def skipBlanks : Nat → Reader Unit
  | 0 => return ()
  | fuel + 1 => do
    match ← rest with
    | ' ' :: _ | '\t' :: _ => skip 1; skipBlanks fuel
    | '\\' :: '\n' :: _ => skip 2; skipBlanks fuel
    | '#' :: cs => skip ((cs.takeWhile (· ≠ '\n')).length + 1)
    | _ => return ()

/-- Go past white space. -/
def blanks : Reader Unit := do skipBlanks ((← rest).length + 1)

/-- Go past white space and line ends. -/
def skipLines : Nat → Reader Unit
  | 0 => return ()
  | fuel + 1 => do
    blanks
    match ← rest with
    | '\n' :: _ => skip 1; skipLines fuel
    | _ => return ()

def newlines : Reader Unit := do skipLines ((← rest).length + 1)

/-- The next word, if nothing in it is quoted or expanded. -/
def bareWord : Reader (Option Raw) := do
  let word := (← rest).takeWhile (!endsWord ·)
  if word.isEmpty || word.any (· ∈ ['\'', '"', '\\', '$', '\x60']) then return none
  return some word

/-- The words that end a list of commands. -/
def closers : List String := ["then", "else", "elif", "fi", "do", "done", "esac", "\x7d"]

/-- All words with a meaning of their own. -/
def reserved : List String :=
  closers ++ ["if", "while", "until", "for", "case", "\x7b", "!", "in"]

/-- The name of the next token in messages. -/
def tokenName : Reader String := do
  blanks
  match ← rest with
  | [] => return "end of file"
  | '\n' :: _ => return "newline"
  | ';' :: ';' :: _ => return "\";;\""
  | '&' :: '&' :: _ => return "\"&&\""
  | '|' :: '|' :: _ => return "\"||\""
  | c :: _ =>
    if c ∈ [';', '&', '|', '(', ')'] then return "\"" ++ c.toString ++ "\""
    else if c ∈ ['<', '>'] then return "redirection"
    else match ← bareWord with
      | some w =>
        let word := String.ofList w
        if word ∈ reserved then return "\"" ++ word ++ "\"" else return "word"
      | none => return "word"

/-- The name of the next token where no word has a meaning of its own. -/
def plainTokenName : Reader String := do
  match ← bareWord with
  | some _ => return "word"
  | none => tokenName

/-- Fail at the next token. -/
def unexpected {α : Type} (expecting : Option String := none) : Reader α := do
  throw (.unexpected (← tokenName) (expecting.map fun w => "\"" ++ w ++ "\""))

/-- Whether the next token ends a list of commands. -/
def atClose : Reader Bool := do
  blanks
  match ← rest with
  | [] | ')' :: _ | ';' :: ';' :: _ => return true
  | _ => match ← bareWord with
    | some w => return String.ofList w ∈ closers
    | none => return false

/-- Go past a word if it is the next one. -/
def acceptWord (word : String) : Reader Bool := do
  blanks
  if (← bareWord) = some word.toList then
    skip word.length
    return true
  else return false

/-- Go past a word that has to be there. -/
def expectWord (word : String) : Reader Unit := do
  newlines
  if !(← acceptWord word) then unexpected (some word)

/-- Go past a character that has to be there. -/
def expectChar (c : Char) : Reader Unit := do
  blanks
  if (← rest).head? = some c then skip 1 else unexpected (some c.toString)

/-- Run a reader on another text. -/
def within {α : Type} (text : Raw) (reader : Reader α) : Reader α := do
  let outer ← get
  set { outer with rest := text }
  let result ← reader
  set outer
  return result

/-! ## Pieces of words -/

/-- Where parts of a word are read. -/
inductive Mode where
  | bare
  /-- Between double quotes. -/
  | quoted
  /-- Inside braces, perhaps between double quotes. -/
  | brace (quoted : Bool)
  | arithmetic (depth : Nat)
  /-- In the lines that follow a command. -/
  | document

/-- Whether parts are taken as quoted. -/
def Mode.isQuoted : Mode → Bool
  | .bare => false
  | .brace q => q
  | _ => true

/-- Put a character in front of parts. -/
def pushChar (c : Char) (quoted : Bool) : List Part → List Part
  | .text s q :: ps =>
    if q = quoted then .text (c :: s) q :: ps else .text [c] quoted :: .text s q :: ps
  | ps => .text [c] quoted :: ps

/-- The characters that a backslash quotes between double quotes. -/
def isEscapable (mode : Mode) (c : Char) : Bool :=
  c ∈ ['$', '\x60', '\\', '\n'] || match mode with
    | .quoted => c = '"'
    | .brace _ => c = '"' || c = '}'
    | _ => false

/-- A special parameter of one character. -/
def isSpecial (c : Char) : Bool := c ∈ ['@', '*', '#', '?', '-', '$', '!'] || c.isDigit

/-- The name of a parameter in braces, at the front of a text. -/
def bracedName : Raw → Raw
  | c :: cs =>
    if Raw.isNameStart c then c :: cs.takeWhile Raw.isNameChar
    else if c.isDigit then c :: cs.takeWhile Char.isDigit
    else if isSpecial c then [c]
    else []
  | [] => []

/-- The fallback that a character asks for. -/
def fallback? : Char → Option Fallback
  | '-' => some .use
  | '=' => some .assign
  | '+' => some .alternative
  | '?' => some .fail
  | _ => none

/-- The text up to a backquote, and what follows it. -/
def backquoted (quoted : Bool) : Raw → Option (Raw × Raw)
  | [] => none
  | '\x60' :: cs => some ([], cs)
  | '\\' :: c :: cs =>
    (backquoted quoted cs).map fun (text, after) =>
      if c = '$' || c = '\x60' || c = '\\' || (quoted && c = '"') then (c :: text, after)
      else ('\\' :: c :: text, after)
  | c :: cs => (backquoted quoted cs).map fun (text, after) => (c :: text, after)

/-- The text of the lines of a document up to its end mark, and what follows it. Without a mark the
document goes on to the end of all lines. -/
def documentLines (mark : Raw) (dropTabs : Bool) : List Raw → Raw × List Raw
  | [] => ([], [])
  | line :: lines =>
    let line := if dropTabs then line.dropWhile (· = '\t') else line
    if line = mark then ([], lines)
    else if lines.isEmpty then (line, [])
    else
      let (body, after) := documentLines mark dropTabs lines
      (line ++ '\n' :: body, after)

/-- Take the document that follows the current line out of the text. -/
def takeDocument (mark : Raw) (dropTabs : Bool) : Reader Raw := do
  let text ← rest
  let line := text.takeWhile (· ≠ '\n')
  let lines := Raw.splitOn '\n' (text.drop (line.length + 1))
  let (body, after) := documentLines mark dropTabs lines
  modify fun s => { s with
    rest := line ++ '\n' :: Raw.join ['\n'] after
    ahead := s.ahead + (lines.length - after.length) }
  return body

/-- Whether an assignment begins a word: its name, and what follows the `=`. -/
def assignment? (text : Raw) : Option (Raw × Raw) :=
  let name := text.takeWhile Raw.isNameChar
  match text.drop name.length with
  | '=' :: value => if Raw.isName name then some (name, value) else none
  | _ => none

/-- The operator of a redirection with its length, and the descriptor that it is about unless one is
given. -/
def redirectOperator? : Raw → Option (Nat × RedirectKind × Nat)
  | '<' :: '<' :: '-' :: _ => some (3, .document, 0)
  | '<' :: '<' :: _ => some (2, .document, 0)
  | '<' :: '&' :: _ => some (2, .duplicate, 0)
  | '<' :: '>' :: _ => some (2, .readWrite, 0)
  | '<' :: _ => some (1, .read, 0)
  | '>' :: '>' :: _ => some (2, .append, 1)
  | '>' :: '&' :: _ => some (2, .duplicate, 1)
  | '>' :: '|' :: _ => some (2, .overwrite, 1)
  | '>' :: _ => some (1, .write, 1)
  | _ => none

/-- The text of a mark, and whether some of it was quoted. -/
def markOf : List Part → Raw × Bool
  | [] => ([], false)
  | .text s q :: ps =>
    let (text, quoted) := markOf ps
    (s ++ text, q || quoted)
  | _ :: ps => markOf ps

/-- The names of commands that no function can have. -/
def specialNames : List String :=
  [":", ".", "break", "continue", "eval", "exec", "exit", "export", "readonly", "return", "set",
    "shift", "times", "trap", "unset"]

/-- A simple command as far as it has been read. -/
structure SimpleCommand where
  assignments : List (Raw × Word) := []
  words : List Word := []
  redirects : List Redirect := []

/-- Whether nothing has been read yet. -/
def SimpleCommand.isEmpty (c : SimpleCommand) : Bool :=
  c.assignments.isEmpty && c.words.isEmpty && c.redirects.isEmpty

/-- Commands one after the other. -/
def chain : List Script → Script
  | [] => .nothing
  | [c] => c
  | c :: cs => .sequence c (chain cs)

/-! ## The grammar -/

mutual

/-- Read parts of a word to its end. -/
def parts : Nat → Mode → Reader (List Part)
  | 0, _ => throw .unterminatedQuote
  | fuel + 1, mode => do
    let quoted := mode.isQuoted
    match ← rest with
    | [] => match mode with
      | .bare | .document => return []
      | .quoted => throw .unterminatedQuote
      | .brace _ => throw .missingBrace
      | .arithmetic _ => throw .missingParentheses
    | c :: cs =>
      let literally : Reader (List Part) := do
        skip 1
        return pushChar c quoted (← parts fuel mode)
      match mode, c with
      | .quoted, '"' => skip 1; return []
      | .brace _, '}' => skip 1; return []
      | .arithmetic 0, ')' =>
        if cs.head? = some ')' then skip 2; return [] else throw .missingParentheses
      | .arithmetic (depth + 1), ')' =>
        skip 1
        return pushChar c true (← parts fuel (.arithmetic depth))
      | .arithmetic depth, '(' =>
        skip 1
        return pushChar c true (← parts fuel (.arithmetic (depth + 1)))
      | .document, '"' => literally
      | _, '\\' => match cs with
        | [] => literally
        | '\n' :: _ => skip 2; parts fuel mode
        | d :: _ =>
          if !quoted || isEscapable mode d then
            skip 2
            return pushChar d true (← parts fuel mode)
          else literally
      | _, '"' =>
        skip 1
        let inner ← parts fuel .quoted
        return .text [] true :: (inner ++ (← parts fuel mode))
      | _, '\'' =>
        if quoted then literally
        else
          let text := cs.takeWhile (· ≠ '\'')
          if text.length = cs.length then throw .unterminatedQuote
          skip (text.length + 2)
          return .text text true :: (← parts fuel mode)
      | _, '$' =>
        skip 1
        let first ← dollar fuel quoted
        return first :: (← parts fuel mode)
      | _, '\x60' => match backquoted quoted cs with
        | none => throw .unterminatedSubstitution
        | some (text, after) =>
          let script ← within text (script fuel)
          modify fun s => { s with rest := after }
          return .substitution script quoted :: (← parts fuel mode)
      | .bare, c => if endsWord c then return [] else literally
      | _, _ => literally

/-- Read what follows a `$`. -/
def dollar : Nat → Bool → Reader Part
  | 0, _ => throw .unterminatedQuote
  | fuel + 1, quoted => do
    match ← rest with
    | '(' :: '(' :: _ =>
      skip 2
      return .arithmetic (← parts fuel (.arithmetic 0)) quoted
    | '(' :: _ =>
      skip 1
      newlines
      let script ← if (← rest).head? = some ')' then pure .nothing else list fuel
      expectChar ')'
      return .substitution script quoted
    | '{' :: _ =>
      skip 1
      braced fuel quoted
    | c :: cs =>
      if Raw.isNameStart c then
        let name := c :: cs.takeWhile Raw.isNameChar
        skip name.length
        return .parameter name .plain quoted
      else if isSpecial c then
        skip 1
        return .parameter [c] .plain quoted
      else return .text ['$'] quoted
    | [] => return .text ['$'] quoted

/-- Read a parameter in braces. -/
def braced : Nat → Bool → Reader Part
  | 0, _ => throw .unterminatedQuote
  | fuel + 1, quoted => do
    match ← rest with
    | '#' :: c :: cs =>
      let name := bracedName (c :: cs)
      if c ≠ '}' && !name.isEmpty && (c :: cs)[name.length]? = some '}' then
        skip (name.length + 2)
        return .parameter name .length quoted
      else bracedUse fuel quoted ['#']
    | text => bracedUse fuel quoted (bracedName text)

/-- Read what is done with a parameter in braces. -/
def bracedUse : Nat → Bool → Raw → Reader Part
  | 0, _, _ => throw .unterminatedQuote
  | fuel + 1, quoted, name => do
    skip name.length
    let withFallback (kind : Fallback) (orEmpty : Bool) : Reader Part := do
      return .parameter name (.fallback kind orEmpty (← parts fuel (.brace quoted))) quoted
    let trimming (fromEnd longest : Bool) : Reader Part := do
      skip (if longest then 2 else 1)
      return .parameter name (.trim fromEnd longest (← parts fuel (.brace false))) quoted
    let invalid : Reader Part := do
      let _ ← parts fuel (.brace quoted)
      return .parameter name .invalid quoted
    if name.isEmpty then invalid
    else match ← rest with
      | '}' :: _ =>
        skip 1
        return .parameter name .plain quoted
      | '%' :: '%' :: _ => trimming true true
      | '%' :: _ => trimming true false
      | '#' :: '#' :: _ => trimming false true
      | '#' :: _ => trimming false false
      | ':' :: c :: _ => match fallback? c with
        | some kind => skip 2; withFallback kind true
        | none => invalid
      | c :: _ => match fallback? c with
        | some kind => skip 1; withFallback kind false
        | none => invalid
      | [] => throw .missingBrace

/-- Read a word. A `~` at its start stands for the home directory. -/
def word : Nat → Reader Word
  | 0 => throw .unterminatedQuote
  | fuel + 1 => do
    match ← rest with
    | '~' :: cs =>
      if cs.head?.all (fun c => endsWord c || c = '/') then
        skip 1
        return .home :: (← parts fuel .bare)
      else parts fuel .bare
    | _ => parts fuel .bare

/-- Read a redirection, if one is next. -/
def redirect? : Nat → Reader (Option Redirect)
  | 0 => return none
  | fuel + 1 => do
    blanks
    let text ← rest
    let digits := text.takeWhile Char.isDigit
    match redirectOperator? (text.drop digits.length) with
    | none => return none
    | some (length, kind, standard) =>
      let descriptor := (Raw.toNat? digits).getD standard
      let dropsTabs := length = 3
      skip (digits.length + length)
      blanks
      if (← rest).head?.all endsWord then unexpected
      let target ← word fuel
      if kind ≠ .document then return some (.mk descriptor kind target)
      let (mark, quoted) := markOf target
      let body ← takeDocument mark dropsTabs
      if quoted then return some (.mk descriptor kind [.text body true])
      else return some (.mk descriptor kind (← within body (parts fuel .document)))

/-- Read all redirections that follow. -/
def redirects : Nat → Reader (List Redirect)
  | 0 => return []
  | fuel + 1 => do
    match ← redirect? fuel with
    | none => return []
    | some r => return r :: (← redirects fuel)

/-- Read the rest of a simple command. -/
def simple : Nat → SimpleCommand → Reader SimpleCommand
  | 0, _ => throw .unterminatedQuote
  | fuel + 1, c => do
    match ← redirect? fuel with
    | some r => simple fuel { c with redirects := c.redirects ++ [r] }
    | none =>
      let text ← rest
      if text.head?.all endsWord then return c
      else match if c.words.isEmpty then assignment? text else none with
        | some (name, _) =>
          skip (name.length + 1)
          let value ← word fuel
          simple fuel { c with assignments := c.assignments ++ [(name, value)] }
        | none =>
          let w ← word fuel
          simple fuel { c with words := c.words ++ [w] }

/-- Read a command that is no simple one, if one is next. -/
def compound? : Nat → Reader (Option Script)
  | 0 => return none
  | fuel + 1 => do
    blanks
    if (← rest).head? = some '(' then
      skip 1
      let body ← list fuel
      expectChar ')'
      return some (.subshell body)
    else if ← acceptWord "\x7b" then
      let body ← list fuel
      expectWord "\x7d"
      return some body
    else if ← acceptWord "if" then return some (← branches fuel)
    else if ← acceptWord "while" then return some (← loop fuel false)
    else if ← acceptWord "until" then return some (← loop fuel true)
    else if ← acceptWord "for" then return some (← each fuel)
    else if ← acceptWord "case" then return some (← choice fuel)
    else return none

/-- Read a condition and what depends on it. -/
def branches : Nat → Reader Script
  | 0 => throw .unterminatedQuote
  | fuel + 1 => do
    let condition ← list fuel
    expectWord "then"
    let yes ← list fuel
    if ← acceptWord "elif" then return .branch condition yes (← branches fuel)
    else if ← acceptWord "else" then
      let no ← list fuel
      expectWord "fi"
      return .branch condition yes no
    else
      expectWord "fi"
      return .branch condition yes .nothing

/-- Read a loop after its first word. -/
def loop : Nat → Bool → Reader Script
  | 0, _ => throw .unterminatedQuote
  | fuel + 1, isUntil => do
    let condition ← list fuel
    return .loop isUntil condition (← body fuel)

/-- Read the body of a loop. -/
def body : Nat → Reader Script
  | 0 => throw .unterminatedQuote
  | fuel + 1 => do
    expectWord "do"
    let commands ← list fuel
    expectWord "done"
    return commands

/-- Read a loop over words after its first word. -/
def each : Nat → Reader Script
  | 0 => throw .unterminatedQuote
  | fuel + 1 => do
    blanks
    let name := (← bareWord).getD []
    if !Raw.isName name then throw .badName
    skip name.length
    newlines
    if ← acceptWord "in" then
      let words ← wordList fuel
      blanks
      if (← rest).head? = some ';' then skip 1
      return .each name (some words) (← body fuel)
    else
      blanks
      if (← rest).head? = some ';' then skip 1
      return .each name none (← body fuel)

/-- Read words up to the end of a command. -/
def wordList : Nat → Reader (List Word)
  | 0 => return []
  | fuel + 1 => do
    blanks
    if (← rest).head?.all endsWord then return []
    let w ← word fuel
    return w :: (← wordList fuel)

/-- Read a choice after its first word. -/
def choice : Nat → Reader Script
  | 0 => throw .unterminatedQuote
  | fuel + 1 => do
    blanks
    if (← rest).head?.all endsWord then unexpected
    let subject ← word fuel
    newlines
    if !(← acceptWord "in") then unexpected (some "in")
    return .choice subject (← clauses fuel)

/-- Read the clauses of a choice. -/
def clauses : Nat → Reader (List (List Word × Script))
  | 0 => return []
  | fuel + 1 => do
    newlines
    if ← acceptWord "esac" then return []
    if (← rest).head? = some '(' then skip 1
    if (← rest).isEmpty then unexpected (some ")")
    let patterns ← alternatives fuel
    expectChar ')'
    newlines
    let commands ← if ← atClose then pure .nothing else list fuel
    newlines
    if (← rest).take 2 = [';', ';'] then
      skip 2
      return (patterns, commands) :: (← clauses fuel)
    else if ← acceptWord "esac" then return [(patterns, commands)]
    else unexpected (some ";;")

/-- Read the patterns of a clause. -/
def alternatives : Nat → Reader (List Word)
  | 0 => return []
  | fuel + 1 => do
    blanks
    if (← rest).head?.all endsWord then unexpected
    let w ← word fuel
    blanks
    if (← rest).head? = some '|' then
      skip 1
      return w :: (← alternatives fuel)
    else return [w]

/-- Read a command. -/
def command : Nat → Reader Script
  | 0 => throw .unterminatedQuote
  | fuel + 1 => do
    blanks
    let { rest := text, line, aliases, .. } ← get
    let first ← bareWord
    match first.bind fun word => aliases.lookup word with
    | some value =>
      modify fun s => { s with
        rest := value ++ text.drop (first.getD []).length
        aliases := aliases.filter fun a => some a.1 ≠ first }
      let c ← command fuel
      modify fun s => { s with aliases }
      return c
    | none => match ← compound? fuel with
      | some c => match ← redirects fuel with
        | [] => return c
        | found => return .redirected line c found
      | none =>
        if (← atClose) || first = some ['!'] then unexpected
        let c ← simple fuel {}
        if c.isEmpty then unexpected
        if (← rest).head? = some '(' then
          if !c.assignments.isEmpty || !c.redirects.isEmpty || c.words.length ≠ 1 then unexpected
          skip 1
          blanks
          if (← rest).head? ≠ some ')' then
            throw (.unexpected (← plainTokenName) (some "\")\""))
          skip 1
          let name := first.getD []
          if !Raw.isName name || specialNames.any (·.toList = name) then throw .badFunctionName
          newlines
          return .function name (← command fuel)
        return .simple line c.assignments c.words c.redirects

/-- Read commands that are connected by pipes. -/
def stages : Nat → Reader (List Script)
  | 0 => return []
  | fuel + 1 => do
    let first ← command fuel
    blanks
    match ← rest with
    | '|' :: '|' :: _ => return [first]
    | '|' :: _ =>
      skip 1
      newlines
      return first :: (← stages fuel)
    | _ => return [first]

/-- Read a pipeline. -/
def pipeline : Nat → Reader Script
  | 0 => throw .unterminatedQuote
  | fuel + 1 => do
    let negated ← acceptWord "!"
    let c ← match ← stages fuel with
      | [c] => pure c
      | cs => pure (.pipeline cs)
    return if negated then .negation c else c

/-- Read the rest of pipelines that depend on each other. -/
def connected : Nat → Script → Reader Script
  | 0, first => return first
  | fuel + 1, first => do
    blanks
    match ← rest with
    | '&' :: '&' :: _ =>
      skip 2
      newlines
      connected fuel (.both first (← pipeline fuel))
    | '|' :: '|' :: _ =>
      skip 2
      newlines
      connected fuel (.either first (← pipeline fuel))
    | _ => return first

/-- Read a command of a list, and what separates it from the next: whether it is run in the
background, and whether the list may go on. -/
def item : Nat → Reader (Script × Bool)
  | 0 => throw .unterminatedQuote
  | fuel + 1 => do
    let c ← connected fuel (← pipeline fuel)
    blanks
    match ← rest with
    | ';' :: ';' :: _ => return (c, false)
    | ';' :: _ => skip 1; return (c, true)
    | '&' :: _ => skip 1; return (.background c, true)
    | _ => return (c, false)

/-- Read a list of commands up to what closes it. -/
def list : Nat → Reader Script
  | 0 => throw .unterminatedQuote
  | fuel + 1 => do
    newlines
    if (← rest).isEmpty then return .nothing
    if ← atClose then unexpected
    return chain (← items fuel)

/-- Read the commands of a list. -/
def items : Nat → Reader (List Script)
  | 0 => return []
  | fuel + 1 => do
    let (c, separated) ← item fuel
    blanks
    let goesOn := separated || (← rest).head? = some '\n'
    newlines
    if !goesOn || (← atClose) then return [c]
    return c :: (← items fuel)

/-- Read a whole script. -/
def script : Nat → Reader Script
  | 0 => throw .unterminatedQuote
  | fuel + 1 => do
    newlines
    if (← rest).isEmpty then return .nothing
    let commands ← list fuel
    if (← rest).isEmpty then return commands else unexpected

end

/-- Read the commands of one line. -/
def lineItems : Nat → Reader (List Script)
  | 0 => return []
  | fuel + 1 => do
    let (c, separated) ← item (16 * (← rest).length + 64)
    blanks
    match ← rest with
    | [] => return [c]
    | '\n' :: _ => skip 1; return [c]
    | _ => if separated then return c :: (← lineItems fuel) else unexpected

/-- Read the next line of commands; nothing if there is none. -/
def line : Reader (Option Script) := do
  newlines
  let text ← rest
  if text.isEmpty then return none
  return some (chain (← lineItems (text.length + 1)))

end Reader

end Stepwise.Machine.Shell
