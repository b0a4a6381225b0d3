import Stepwise.Machine.FileTree
import Stepwise.Machine.Regex

/-!
# Patterns

The patterns of the shell, in which `*`, `?` and brackets stand for characters unless they are
quoted.

* `Pattern.accepts`: whether a pattern matches a whole text.
* `Pattern.trim`: a text without what a pattern matches at one end.
* `Pattern.paths`: the paths that a pattern matches.
-/

namespace Stepwise.Machine.Shell

/-- A character, and whether it is quoted. -/
abbrev Marked := Char × Bool

/-- A piece of a pattern. -/
inductive PatternPiece where
  | literal (c : Char)
  | one
  | many
  | oneOf (negated : Bool) (ranges : List (Char × Char))

/-- A pattern. -/
abbrev Pattern := List PatternPiece

namespace Pattern

/-- The ranges up to the end of a bracket, and what follows it. -/
def ranges : Nat → List Marked → Option (List (Char × Char) × List Marked)
  | 0, _ | _, [] => none
  | _, (']', false) :: cs => some ([], cs)
  | fuel + 1, ('[', false) :: (':', _) :: cs =>
    let name := (cs.map (·.1)).takeWhile (· ≠ ':')
    (ranges fuel (cs.drop (name.length + 2))).map fun (rs, rest) =>
      (Regex.classRanges name ++ rs, rest)
  | fuel + 1, (a, _) :: ('-', false) :: (b, q) :: cs =>
    if b = ']' && !q then some ([(a, a), ('-', '-')], cs)
    else (ranges fuel cs).map fun (rs, rest) => ((a, b) :: rs, rest)
  | fuel + 1, (a, _) :: cs => (ranges fuel cs).map fun (rs, rest) => ((a, a) :: rs, rest)

/-- What follows the bracket that opens a set of characters. -/
def set? (text : List Marked) : Option (PatternPiece × List Marked) :=
  let (negated, text) := match text with
    | ('!', false) :: cs | ('^', false) :: cs => (true, cs)
    | cs => (false, cs)
  let (first, text) : List (Char × Char) × List Marked := match text with
    | (']', _) :: cs => ([(']', ']')], cs)
    | cs => ([], cs)
  (ranges (text.length + 1) text).map fun (rs, rest) => (.oneOf negated (first ++ rs), rest)

/-- A pattern from its characters. The number bounds how many there are. -/
def read : Nat → List Marked → Pattern
  | 0, _ | _, [] => []
  | fuel + 1, (c, quoted) :: cs =>
    if quoted then .literal c :: read fuel cs
    else match c with
      | '*' => .many :: read fuel cs
      | '?' => .one :: read fuel cs
      | '[' => match set? cs with
        | some (piece, rest) => piece :: read fuel rest
        | none => .literal c :: read fuel cs
      | _ => .literal c :: read fuel cs

/-- A pattern from its characters. -/
def ofMarked (text : List Marked) : Pattern := read (text.length + 1) text

/-- Whether a pattern can match more than one text. -/
def isOpen (pattern : Pattern) : Bool :=
  pattern.any fun
    | .literal _ => false
    | _ => true

/-- Whether a piece matches a character. -/
def matchesChar (piece : PatternPiece) (c : Char) : Bool :=
  match piece with
  | .literal d => c = d
  | .one | .many => true
  | .oneOf negated ranges => Regex.inRanges {} ranges c ≠ negated

/-- Whether some end of a text, or all of it, passes a test. -/
def anySuffix (test : Raw → Bool) : Raw → Bool
  | [] => test []
  | c :: cs => test (c :: cs) || anySuffix test cs

/-- Whether a pattern matches a whole text. -/
def accepts : Pattern → Raw → Bool
  | [], text => text.isEmpty
  | .many :: ps, text => anySuffix (accepts ps) text
  | p :: ps, c :: cs => matchesChar p c && accepts ps cs
  | _ :: _, [] => false

/-- A text without what a pattern matches at one end, as little as possible or as much as
possible. -/
def trim (fromEnd longest : Bool) (pattern : Pattern) (text : Raw) : Raw :=
  let lengths := List.range (text.length + 1)
  let lengths := if longest then lengths.reverse else lengths
  let removed := lengths.find? fun n =>
    accepts pattern (if fromEnd then text.drop (text.length - n) else text.take n)
  match removed with
  | none => text
  | some n => if fromEnd then text.take (text.length - n) else text.drop n

/-! ## Paths -/

/-- The pieces of marked text between slashes. -/
def components : List Marked → List (List Marked)
  | [] => [[]]
  | (c, q) :: cs => match components cs with
    | piece :: pieces => if c = '/' then [] :: piece :: pieces else ((c, q) :: piece) :: pieces
    | [] => [[(c, q)]]

/-- The names in a directory that a pattern matches. A dot at the front has to be written. -/
def namesIn (tree : FileTree) (path : Path) (pattern : Pattern) : List Raw :=
  let dotted := match pattern with
    | .literal '.' :: _ => true
    | _ => false
  ((tree.names path).map Raw.ofBytes).filter fun name =>
    (dotted || name.head? ≠ some '.') && accepts pattern name

/-- The paths that components match below a place, which is given by its text and its path. -/
def below (tree : FileTree) : List (List Marked) → Raw → Path → List Raw
  | [], text, _ => [text]
  | component :: rest, text, path =>
    let plain := component.map (·.1)
    let pattern := ofMarked component
    let slash : Raw := if rest.isEmpty then [] else ['/']
    if pattern.isOpen then
      (namesIn tree path pattern).flatMap fun name =>
        match tree.walk path [name.toBytes] with
        | .ok next =>
          if rest.isEmpty || tree.isDirectory next then below tree rest (text ++ name ++ slash) next
          else []
        | .error _ => []
    else if plain.isEmpty then below tree rest (text ++ slash) path
    else match tree.walk path [Raw.toBytes plain] with
      | .ok next =>
        if (tree.entryAt? next).isSome then below tree rest (text ++ plain ++ slash) next else []
      | .error _ => []

/-- The paths that a word matches, if it is a pattern and there are any. -/
def paths (tree : FileTree) (directory : Path) (word : List Marked) : List Raw :=
  if !(ofMarked word).isOpen then []
  else
    let absolute := (word.head?.map (·.1)) = some '/'
    let word := if absolute then word.dropWhile (·.1 = '/') else word
    (below tree (components word) (if absolute then ['/'] else [])
      (if absolute then [] else directory)).mergeSort Raw.le

end Pattern

end Stepwise.Machine.Shell
