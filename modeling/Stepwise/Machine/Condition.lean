import Stepwise.Machine.FileTree
import Stepwise.Machine.Format

/-!
# Conditions

The conditions of `test`: of texts, of numbers and of files, joined by `!`, `-a`, `-o` and
parentheses. With up to four words their number says how they are read.

* `Condition.holds`: whether a condition holds for some files; an error says what is wrong with it.
-/

namespace Stepwise.Machine.Condition

/-- What conditions are about, beside their words. -/
structure Place where
  tree : FileTree
  directory : Path
  /-- Whether a descriptor is open at a terminal. -/
  isTerminal : Nat → Bool := fun _ => false
  /-- Whether `==` is an operator. -/
  doubleEquals : Bool := true

/-- What is wrong with a condition. -/
inductive Fault where
  | badNumber (word : Raw)
  /-- An operator lacks its second operand. -/
  | missingOperand (operator : Raw)
  | unexpected (word : Raw)
  | missingParenthesis

/-- A fault in words. -/
def Fault.message : Fault → Raw
  | .badNumber word => Raw.ofString "Illegal number: " ++ word
  | .missingOperand operator => operator ++ Raw.ofString ": argument expected"
  | .unexpected word => word ++ Raw.ofString ": unexpected operator"
  | .missingParenthesis => Raw.ofString "closing paren expected"

/-- The entry at a path. -/
def Place.entryAt? (p : Place) (path : Raw) : Option Entry :=
  match p.tree.find p.directory path.toBytes with
  | .ok e => some e
  | .error _ => none

/-- The place that a path means. -/
def Place.resolve? (p : Place) (path : Raw) : Option Path :=
  (p.tree.resolve p.directory path.toBytes).toOption

/-- The conditions of one word. -/
def unary? (p : Place) (operator : Raw) : Option (Raw → Bool) :=
  let about (check : Entry → Bool) : Option (Raw → Bool) :=
    some fun path => (p.entryAt? path).any check
  match operator with
  | ['-', 'n'] => some fun word => !word.isEmpty
  | ['-', 'z'] => some fun word => word.isEmpty
  | ['-', 't'] => some fun word => (Raw.toNat? word).any p.isTerminal
  | ['-', 'e'] | ['-', 'a'] | ['-', 'r'] | ['-', 'w'] | ['-', 'O'] | ['-', 'G'] =>
    about fun _ => true
  | ['-', 'd'] => about fun e => e = .directory
  | ['-', 'f'] => about fun
    | .file _ | .program _ => true
    | _ => false
  | ['-', 's'] => about fun
    | .file n => !(p.tree.file n).content.isEmpty
    | .directory | .program _ => true
    | .device _ => false
  | ['-', 'x'] => about fun
    | .file n => (p.tree.file n).executable
    | .directory | .program _ => true
    | .device _ => false
  | ['-', 'c'] => about fun
    | .device _ => true
    | _ => false
  | ['-', 'b'] | ['-', 'p'] | ['-', 'L'] | ['-', 'h'] | ['-', 'S'] | ['-', 'g'] | ['-', 'u']
  | ['-', 'k'] => some fun _ => false
  | _ => none

/-- A word as a number. -/
def integer (word : Raw) : Except Fault Int :=
  let bare := (word.dropWhile Raw.isSpace).reverse.dropWhile Raw.isSpace |>.reverse
  match Raw.toInt? bare with
  | some n => .ok n
  | none => .error (.badNumber word)

/-- The conditions of two words. All files are of one age. -/
def binary? (p : Place) (operator : Raw) : Option (Raw → Raw → Except Fault Bool) :=
  let numbers (check : Int → Int → Bool) : Option (Raw → Raw → Except Fault Bool) :=
    some fun a b => do return check (← integer a) (← integer b)
  match operator with
  | ['='] => some fun a b => .ok (a = b)
  | ['=', '='] => if p.doubleEquals then some fun a b => .ok (a = b) else none
  | ['-', 'n', 't'] => some fun a b => .ok ((p.entryAt? a).isSome && (p.entryAt? b).isNone)
  | ['-', 'o', 't'] => some fun a b => .ok ((p.entryAt? a).isNone && (p.entryAt? b).isSome)
  | ['-', 'e', 'f'] => some fun a b => .ok ((p.entryAt? a).isSome && p.resolve? a = p.resolve? b)
  | ['!', '='] => some fun a b => .ok (a ≠ b)
  | ['<'] => some fun a b => .ok (decide (a < b))
  | ['>'] => some fun a b => .ok (decide (b < a))
  | ['-', 'e', 'q'] => numbers (· = ·)
  | ['-', 'n', 'e'] => numbers (· ≠ ·)
  | ['-', 'l', 't'] => numbers (· < ·)
  | ['-', 'l', 'e'] => numbers (· ≤ ·)
  | ['-', 'g', 't'] => numbers (· > ·)
  | ['-', 'g', 'e'] => numbers (· ≥ ·)
  | _ => none

/-- The rules of the grammar, from the loosest to the tightest. -/
inductive Rule where
  | disjunction
  | conjunction
  | negation
  | primary

/-- Read a condition by a rule; beside its value come the words that are left. -/
def parse (p : Place) : Nat → Rule → List Raw → Except Fault (Bool × List Raw)
  | 0, _, _ => .error .missingParenthesis
  | fuel + 1, .disjunction, words => do
    let (a, rest) ← parse p fuel .conjunction words
    match rest with
    | ['-', 'o'] :: rest =>
      let (b, rest) ← parse p fuel .disjunction rest
      return (a || b, rest)
    | rest => return (a, rest)
  | fuel + 1, .conjunction, words => do
    let (a, rest) ← parse p fuel .negation words
    match rest with
    | ['-', 'a'] :: rest =>
      let (b, rest) ← parse p fuel .conjunction rest
      return (a && b, rest)
    | rest => return (a, rest)
  | fuel + 1, .negation, words =>
    match words with
    | ['!'] :: rest => do
      let (a, rest) ← parse p fuel .negation rest
      return (!a, rest)
    | words => parse p fuel .primary words
  | fuel + 1, .primary, words =>
    match words with
    | [] => .ok (false, [])
    | [a] => .ok (!a.isEmpty, [])
    | ['('] :: rest => do
      let (a, rest) ← parse p fuel .disjunction rest
      match rest with
      | [')'] :: rest => return (a, rest)
      | _ => throw .missingParenthesis
    | a :: operator :: b :: rest =>
      match binary? p operator with
      | some check => (check a b).map (·, rest)
      | none => match unary? p a with
        | some check => .ok (check operator, b :: rest)
        | none => .ok (!a.isEmpty, operator :: b :: rest)
    | [a, b] => match unary? p a with
      | some check => .ok (check b, [])
      | none =>
        if (binary? p b).isSome then .error (.missingOperand b) else .ok (!a.isEmpty, [b])

/-- Whether a condition of any number of words holds. -/
def parseAll (p : Place) (words : List Raw) : Except Fault Bool := do
  let (value, rest) ← parse p (8 * words.length + 8) .disjunction words
  if rest.isEmpty then return value
  throw (.unexpected ((words[words.length - rest.length - 1]?).getD []))

/-- Whether a condition of up to four words holds. -/
def holds (p : Place) (words : List Raw) : Except Fault Bool :=
  match words with
  | [] => .ok false
  | [a] => .ok (!a.isEmpty)
  | [['!'], a] => .ok a.isEmpty
  | [a, operator, b] => match binary? p operator with
    | some check => check a b
    | none => parseAll p words
  | [['!'], a, operator, b] => match binary? p operator with
    | some check => (check a b).map not
    | none => parseAll p words
  | _ => parseAll p words

end Stepwise.Machine.Condition
