import Stepwise.Machine.Raw

/-!
# Regular expressions

Expressions as `grep` and `sed` read them, basic and extended. A match is found by going back on
choices; each repetition takes as much as it can.

* `Regex.parse`: an expression from its text.
* `Regex.search`: the first match in a line, with its groups.
-/

namespace Stepwise.Machine

/-- A regular expression. -/
inductive Regex where
  | nothing
  /-- A character in one of some ranges, or in none of them. -/
  | oneOf (negated : Bool) (ranges : List (Char × Char))
  | any
  | lineStart
  | lineEnd
  | wordEdge
  | both (first second : Regex)
  | either (first second : Regex)
  /-- At least `least` times, and at most `most` times if there is a bound. -/
  | repeated (body : Regex) (least : Nat) (most : Option Nat)
  | group (number : Nat) (body : Regex)
  | reference (number : Nat)
  deriving Inhabited

namespace Regex

/-! ## Reading -/

/-- An expression with what is left to read, and the number of groups so far. -/
structure Reading where
  rest : Raw
  groups : Nat := 0

/-- The ranges of a named class of characters. -/
def classRanges (name : Raw) : List (Char × Char) :=
  if name = "alpha".toList then [('a', 'z'), ('A', 'Z')]
  else if name = "digit".toList then [('0', '9')]
  else if name = "alnum".toList then [('a', 'z'), ('A', 'Z'), ('0', '9')]
  else if name = "upper".toList then [('A', 'Z')]
  else if name = "lower".toList then [('a', 'z')]
  else if name = "space".toList then [(' ', ' '), ('\t', '\r')]
  else if name = "blank".toList then [(' ', ' '), ('\t', '\t')]
  else if name = "punct".toList then [('!', '/'), (':', '@'), ('[', '\x60'), ('{', '~')]
  else if name = "xdigit".toList then [('a', 'f'), ('A', 'F'), ('0', '9')]
  else if name = "print".toList then [(' ', '~')]
  else if name = "graph".toList then [('!', '~')]
  else if name = "cntrl".toList then [('\x00', '\x1f'), ('\x7f', '\x7f')]
  else []

/-- The ranges up to the end of a bracket expression, and what follows it. The number bounds the
length of the text. -/
def bracket : Nat → Raw → Option (List (Char × Char) × Raw)
  | 0, _ | _, [] => none
  | _, ']' :: cs => some ([], cs)
  | fuel + 1, '[' :: ':' :: cs =>
    let name := cs.takeWhile (· ≠ ':')
    (bracket fuel (cs.drop (name.length + 2))).map fun (rs, rest) => (classRanges name ++ rs, rest)
  | _, a :: '-' :: ']' :: cs => some ([(a, a), ('-', '-')], cs)
  | fuel + 1, a :: '-' :: b :: cs => (bracket fuel cs).map fun (rs, rest) => ((a, b) :: rs, rest)
  | fuel + 1, a :: cs => (bracket fuel cs).map fun (rs, rest) => ((a, a) :: rs, rest)

/-- A bracket expression after its first character. -/
def oneOf? (text : Raw) : Option (Regex × Raw) :=
  let (negated, text) := match text with
    | '^' :: cs => (true, cs)
    | cs => (false, cs)
  let (first, text) : List (Char × Char) × Raw := match text with
    | ']' :: cs => ([(']', ']')], cs)
    | cs => ([], cs)
  (bracket (text.length + 1) text).map fun (ranges, rest) =>
    (.oneOf negated (first ++ ranges), rest)

/-- A character that stands for itself. -/
def literal (c : Char) : Regex := .oneOf false [(c, c)]

/-- What a character after a backslash means, if it is no operator. -/
def escaped (c : Char) : Regex :=
  let word := [('a', 'z'), ('A', 'Z'), ('0', '9'), ('_', '_')]
  match c with
  | 'w' => .oneOf false word
  | 'W' => .oneOf true word
  | 's' => .oneOf false (classRanges "space".toList)
  | 'S' => .oneOf true (classRanges "space".toList)
  | 'b' | '<' | '>' => .wordEdge
  | 'n' => literal '\n'
  | 't' => literal '\t'
  | c => if c.isDigit then .reference (c.toNat - '0'.toNat) else literal c

/-- A token of an expression. -/
inductive Token where
  | opening
  | closing
  | bar
  | star
  | plus
  | optional
  | bounds
  | other
  deriving DecidableEq

/-- The token at the front of a text, and its length. In a basic expression some operators have a
backslash in front. -/
def token (extended : Bool) : Raw → Token × Nat
  | '*' :: _ => (.star, 1)
  | '\\' :: c :: _ => if extended then (.other, 2) else match c with
    | '(' => (.opening, 2)
    | ')' => (.closing, 2)
    | '|' => (.bar, 2)
    | '+' => (.plus, 2)
    | '?' => (.optional, 2)
    | '{' => (.bounds, 2)
    | _ => (.other, 2)
  | c :: _ => if !extended then (.other, 1) else match c with
    | '(' => (.opening, 1)
    | ')' => (.closing, 1)
    | '|' => (.bar, 1)
    | '+' => (.plus, 1)
    | '?' => (.optional, 1)
    | '{' => (.bounds, 1)
    | _ => (.other, 1)
  | [] => (.other, 0)

/-- The bounds of a repetition, and what follows them. -/
def bounds (extended : Bool) (text : Raw) : Nat × Option Nat × Raw :=
  let least := text.takeWhile Char.isDigit
  let rest := text.drop least.length
  let after (rest : Raw) : Raw := rest.drop (if extended then 1 else 2)
  match rest with
  | ',' :: rest =>
    let most := rest.takeWhile Char.isDigit
    ((Raw.toNat? least).getD 0, Raw.toNat? most, after (rest.drop most.length))
  | rest => ((Raw.toNat? least).getD 0, Raw.toNat? least, after rest)

/-- The rules of the grammar, from the loosest to the tightest. -/
inductive Rule where
  | alternatives
  | pieces
  | atom
  /-- Repetitions of what has just been read. -/
  | repetitions (body : Regex)

/-- Read an expression by a rule. -/
def read (extended : Bool) : Nat → Rule → Reading → Option (Regex × Reading)
  | 0, _, _ => none
  | fuel + 1, .alternatives, r => do
    let (a, r) ← read extended fuel .pieces r
    match token extended r.rest with
    | (.bar, n) =>
      let (b, r) ← read extended fuel .alternatives { r with rest := r.rest.drop n }
      return (.either a b, r)
    | _ => return (a, r)
  | fuel + 1, .pieces, r =>
    match token extended r.rest with
    | (.bar, _) | (.closing, _) => some (.nothing, r)
    | _ => if r.rest.isEmpty then some (.nothing, r) else do
      let (a, r) ← read extended fuel .atom r
      let (a, r) ← read extended fuel (.repetitions a) r
      let (b, r) ← read extended fuel .pieces r
      return (.both a b, r)
  | fuel + 1, .repetitions body, r =>
    let go (n least : Nat) (most : Option Nat) : Option (Regex × Reading) :=
      read extended fuel (.repetitions (.repeated body least most)) { r with rest := r.rest.drop n }
    match token extended r.rest with
    | (.star, n) => go n 0 none
    | (.plus, n) => go n 1 none
    | (.optional, n) => go n 0 (some 1)
    | (.bounds, n) =>
      let (least, most, rest) := bounds extended (r.rest.drop n)
      read extended fuel (.repetitions (.repeated body least most)) { r with rest }
    | _ => some (body, r)
  | fuel + 1, .atom, r =>
    match token extended r.rest with
    | (.opening, n) => do
      let number := r.groups + 1
      let inner : Reading := { rest := r.rest.drop n, groups := number }
      let (a, r) ← read extended fuel .alternatives inner
      match token extended r.rest with
      | (.closing, n) => return (.group number a, { r with rest := r.rest.drop n })
      | _ => none
    | _ => match r.rest with
      | '\\' :: c :: rest => some (escaped c, { r with rest })
      | '[' :: rest => (oneOf? rest).map fun (a, rest) => (a, { r with rest })
      | '.' :: rest => some (.any, { r with rest })
      | '^' :: rest => some (.lineStart, { r with rest })
      | '$' :: rest =>
        let ends :=
          rest.isEmpty || (token extended rest).1 = .closing || (token extended rest).1 = .bar
        some (if extended || ends then .lineEnd else literal '$', { r with rest })
      | c :: rest => some (literal c, { r with rest })
      | [] => none

/-- An expression from its text. -/
def parse (extended : Bool) (text : Raw) : Option Regex := do
  let (a, r) ← read extended (8 * text.length + 8) .alternatives { rest := text }
  if r.rest.isEmpty then some a else none

/-! ## Matching -/

/-- How a line is matched. -/
structure Settings where
  ignoresCase : Bool := false

/-- A place in a line: the character before it, the rest, how far it is from the beginning, and the
groups that have been matched, each with its beginning and its text. -/
structure Place where
  previous : Option Char := none
  rest : Raw
  index : Nat := 0
  groups : List (Nat × Raw) := []

/-- Whether a character is part of a word. -/
def isWord (c : Char) : Bool := c.isAlphanum || c = '_'

/-- Whether a character is in one of some ranges. -/
def inRanges (s : Settings) (ranges : List (Char × Char)) (c : Char) : Bool :=
  let within (c : Char) : Bool := ranges.any fun (a, b) => a ≤ c && c ≤ b
  within c || (s.ignoresCase && (within c.toLower || within c.toUpper))

/-- Go past characters. -/
def Place.skip (p : Place) (n : Nat) : Place :=
  match n with
  | 0 => p
  | n + 1 => match p.rest with
    | [] => p
    | c :: rest => { p with previous := some c, rest, index := p.index + 1 }.skip n

/-- Match an expression, then go on. The number bounds the work. -/
def run (s : Settings) : Nat → Regex → Place → (Place → Option Place) → Option Place
  | 0, _, _, _ => none
  | _, .nothing, p, next => next p
  | _, .oneOf negated ranges, p, next => match p.rest with
    | c :: _ => if inRanges s ranges c ≠ negated then next (p.skip 1) else none
    | [] => none
  | _, .any, p, next => if p.rest.isEmpty then none else next (p.skip 1)
  | _, .lineStart, p, next => if p.index = 0 then next p else none
  | _, .lineEnd, p, next => if p.rest.isEmpty then next p else none
  | _, .wordEdge, p, next =>
    if p.previous.any isWord ≠ p.rest.head?.any isWord then next p else none
  | fuel + 1, .both a b, p, next => run s fuel a p fun p => run s fuel b p next
  | fuel + 1, .either a b, p, next => (run s fuel a p next).orElse fun _ => run s fuel b p next
  | fuel + 1, .group n a, p, next =>
    run s fuel a p fun q =>
      next { q with groups := (n, p.rest.take (q.index - p.index)) :: q.groups.filter (·.1 ≠ n) }
  | _, .reference n, p, next =>
    let text := (p.groups.lookup n).getD []
    if text.isPrefixOf p.rest then next (p.skip text.length) else none
  | fuel + 1, .repeated a least most, p, next =>
    if most = some 0 then next p
    else
      let more := run s fuel a p fun q =>
        if q.index = p.index then none
        else run s fuel (.repeated a (least - 1) (most.map (· - 1))) q next
      if least = 0 then more.orElse fun _ => next p else more

/-- A match in a line. -/
structure Match where
  start : Nat
  text : Raw
  groups : List (Nat × Raw)

/-- The match of an expression at a place. -/
def matchAt (s : Settings) (r : Regex) (p : Place) : Option Match :=
  (run s (4 * p.rest.length + 1000) r p some).map fun q =>
    { start := p.index, text := p.rest.take (q.index - p.index), groups := q.groups }

/-- The first match of an expression from a place on. -/
def searchFrom (s : Settings) (r : Regex) : Nat → Place → Option Match
  | 0, p => matchAt s r p
  | fuel + 1, p => match matchAt s r p with
    | some m => some m
    | none => if p.rest.isEmpty then none else searchFrom s r fuel (p.skip 1)

/-- The first match of an expression in a line. -/
def search (s : Settings) (r : Regex) (line : Raw) : Option Match :=
  searchFrom s r line.length { rest := line }

end Regex

end Stepwise.Machine
