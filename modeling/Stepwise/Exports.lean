import Stepwise.Declaration.Options
import Stepwise.Files
import Stepwise.Text.Blank

/-!
# Exported variables

A step hands variables to later steps by writing lines `KEY=value` to a file, which is read
(`EnvFileParser`) once the step is done. A line may begin with `export `. A value between double
quotes may hold the escapes `\n`, `\t`, `\"` and `\\`; between single quotes it is taken as it is.
White space around the key and the value does not count. Empty lines, lines that begin with `#`, and
lines without a key or without `=` are passed over. Lines keep their order, and a key written twice
gives two variables.

* `Exports.pairs` (`parse`): names and values. `Exports.ofLine?` (`parse_line`): those of one line.
* `Exports.declarations` (`parse_items`): the declarations that later steps see.
* `Exports.loadOptional` (`load_optional`): those of a file that may be missing.
-/

namespace Stepwise.Exports

/-- The variable that holds the path of a step's file. -/
def fileKey : String := "RUNWAY_OUTPUT_ENV_FILE"

/-- What a line may begin with. -/
def exportWord : List Char := "export ".toList

/-- A text with the escapes of a double-quoted value replaced. Any other backslash stays. -/
def unescape : List Char → List Char
  | [] => []
  | '\\' :: c :: cs =>
    if c = 'n' then '\n' :: unescape cs
    else if c = 't' then '\t' :: unescape cs
    else if c = '"' then '"' :: unescape cs
    else if c = '\\' then '\\' :: unescape cs
    else '\\' :: c :: unescape cs
  | c :: cs => c :: unescape cs

/-- Whether a value stands between two quotes `q`. -/
def isQuotedBy (q : Char) (value : List Char) : Bool :=
  2 ≤ value.length && value.head? = some q && value.getLast? = some q

/-- A value without its quotes. -/
def unquote (value : List Char) : List Char :=
  if isQuotedBy '"' value then unescape value.tail.dropLast
  else if isQuotedBy '\'' value then value.tail.dropLast
  else value

/-- A line without the word that it may begin with. -/
def dropExport (line : List Char) : List Char :=
  if exportWord.isPrefixOf line then line.drop exportWord.length else line

/-- The variable of a line. -/
def ofLine? (line : List Char) : Option (String × String) :=
  let line := dropExport line
  let key := Text.trim (line.takeWhile (· != '='))
  match line.dropWhile (· != '=') with
  | [] => none
  | _ :: value =>
    if key.isEmpty then none
    else some (String.ofList key, String.ofList (unquote (Text.trim value)))

/-- Whether a line, trimmed, can hold a variable. -/
def isCandidate (line : List Char) : Bool :=
  !line.isEmpty && line.head? != some '#'

/-- The variables of a file, in the order of its lines. -/
def pairs (content : String) : List (String × String) :=
  (((Text.lines content.toList).map Text.trim).filter isCandidate).filterMap ofLine?

/-- The variables of a file as declarations whose values are taken as they are. -/
def declarations (content : String) : List Declaration :=
  (pairs content).map fun p => .literal p.1 p.2

/-- The declarations of the file at a path. -/
def load (path : String) (file : FileRead) : Except Error (List Declaration) :=
  (file.text.map declarations).mapError fun e => .envFile path (.system e)

/-- The declarations of a file that may be missing. -/
def loadOptional (path : String) (file : FileRead) : Except Error (List Declaration) :=
  if file.isAbsent then .ok [] else load path file

end Stepwise.Exports
