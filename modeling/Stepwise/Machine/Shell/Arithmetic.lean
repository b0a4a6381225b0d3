import Stepwise.Machine.Format

/-!
# Arithmetic

The expressions between `$((` and `))`: sums of words of 64 bits, with variables and assignments.

* `Arithmetic.parse`: an expression from its text.
* `Arithmetic.Expression.eval`: its value, and the variables that it assigns.
-/

namespace Stepwise.Machine.Shell.Arithmetic

/-- An operator between two values. -/
inductive Operator where
  | add | subtract | multiply | divide | remainder | shiftLeft | shiftRight
  | less | lessEqual | greater | greaterEqual | equal | different
  | bitAnd | bitXor | bitOr
  deriving DecidableEq

/-- An expression. -/
inductive Expression where
  | number (n : Int)
  | variable (name : Raw)
  | negate (e : Expression)
  | invert (e : Expression)
  | not (e : Expression)
  | binary (operator : Operator) (a b : Expression)
  | and (a b : Expression)
  | or (a b : Expression)
  | conditional (condition yes no : Expression)
  /-- An assignment, of a value or of the variable's value changed by it. -/
  | assign (name : Raw) (operator : Option Operator) (e : Expression)
  deriving Inhabited

/-- What is wrong with an expression. -/
inductive Fault where
  | expectsValue
  | expectsEnd
  | expectsParenthesis
  | expectsColon
  | divisionByZero
  /-- A variable is no number. -/
  | badNumber (value : Raw)
  deriving DecidableEq

/-- A fault in words, given the text of the expression. -/
def Fault.message (text : Raw) : Fault → Raw
  | .badNumber value => Raw.ofString "Illegal number: " ++ value
  | fault =>
    let what := match fault with
      | .expectsEnd => "expecting EOF"
      | .expectsParenthesis => "expecting ')'"
      | .expectsColon => "expecting ':'"
      | .divisionByZero => "division by zero"
      | _ => "expecting primary"
    Raw.ofString ("arithmetic expression: " ++ what ++ ": \"") ++ text ++ ['"']

/-! ## Reading -/

/-- The operators between two values, by how tightly they bind. -/
def levels : List (List (String × Operator)) := [
  [("|", .bitOr)], [("^", .bitXor)], [("&", .bitAnd)], [("==", .equal), ("!=", .different)],
  [("<=", .lessEqual), (">=", .greaterEqual), ("<", .less), (">", .greater)],
  [("<<", .shiftLeft), (">>", .shiftRight)], [("+", .add), ("-", .subtract)],
  [("*", .multiply), ("/", .divide), ("%", .remainder)]]

/-- All symbols, longer ones first. -/
def symbols : List String := [
  "<<=", ">>=", "<<", ">>", "<=", ">=", "==", "!=", "&&", "||", "+=", "-=", "*=", "/=", "%=", "&=",
  "^=", "|=", "+", "-", "*", "/", "%", "<", ">", "&", "^", "|", "!", "~", "?", ":", "(", ")", "="]

/-- A token of an expression. -/
inductive Token where
  | number (n : Int)
  | name (name : Raw)
  | symbol (s : String)
  deriving DecidableEq

/-- The tokens of an expression up to something that is none. The number bounds its length. -/
def tokens : Nat → Raw → List Token × Bool
  | 0, text => ([], text.isEmpty)
  | fuel + 1, text =>
    match text.dropWhile Raw.isSpace with
    | [] => ([], true)
    | c :: cs =>
      let go (token : Token) (length : Nat) : List Token × Bool :=
        let (others, complete) := tokens fuel ((c :: cs).drop length)
        (token :: others, complete)
      if c.isDigit then
        let (base, digits) := Format.baseOf (c :: cs)
        let mark := (c :: cs).length - digits.length
        let taken := digits.takeWhile (Format.digitValue · < base)
        go (.number (min (Format.ofDigits base taken) (Nat.pow 2 63 - 1))) (mark + taken.length)
      else if Raw.isNameStart c then
        let name := (c :: cs).takeWhile Raw.isNameChar
        go (.name name) name.length
      else match symbols.find? fun s => s.toList.isPrefixOf (c :: cs) with
        | some s => go (.symbol s) s.length
        | none => ([], false)

/-- The rules of the grammar, from the loosest to the tightest. -/
inductive Rule where
  | assignment
  | conditional
  | disjunction
  | conjunction
  /-- Operators of the given levels. -/
  | level (levels : List (List (String × Operator)))
  /-- More operators of the first level, after a value. -/
  | more (a : Expression) (level : List (String × Operator))
    (levels : List (List (String × Operator)))
  | unary
  | primary

/-- The operator of an assignment such as `+=`. -/
def assignment? (s : String) : Option (Option Operator) :=
  if s = "=" then some none
  else if s ∈ ["<=", ">=", "==", "!="] then none
  else if s.endsWith "=" then
    let operator := String.ofList s.toList.dropLast
    (levels.flatten.lookup operator).map some
  else none

/-- Read an expression by a rule; beside it come the tokens that are left. -/
def read : Nat → Rule → List Token → Except Fault (Expression × List Token)
  | 0, _, _ => .error .expectsValue
  | fuel + 1, .assignment, tokens =>
    let otherwise := read fuel .conditional tokens
    match tokens with
    | .name name :: .symbol s :: rest => match assignment? s with
      | some operator => do
        let (e, rest) ← read fuel .assignment rest
        return (.assign name operator e, rest)
      | none => otherwise
    | _ => otherwise
  | fuel + 1, .conditional, tokens => do
    let (condition, rest) ← read fuel .disjunction tokens
    match rest with
    | .symbol "?" :: rest =>
      let (yes, rest) ← read fuel .assignment rest
      match rest with
      | .symbol ":" :: rest =>
        let (no, rest) ← read fuel .conditional rest
        return (.conditional condition yes no, rest)
      | _ => throw .expectsColon
    | rest => return (condition, rest)
  | fuel + 1, .disjunction, tokens => do
    let (a, rest) ← read fuel .conjunction tokens
    match rest with
    | .symbol "||" :: rest =>
      let (b, rest) ← read fuel .disjunction rest
      return (.or a b, rest)
    | rest => return (a, rest)
  | fuel + 1, .conjunction, tokens => do
    let (a, rest) ← read fuel (.level levels) tokens
    match rest with
    | .symbol "&&" :: rest =>
      let (b, rest) ← read fuel .conjunction rest
      return (.and a b, rest)
    | rest => return (a, rest)
  | fuel + 1, .level [], tokens => read fuel .unary tokens
  | fuel + 1, .level (l :: ls), tokens => do
    let (a, rest) ← read fuel (.level ls) tokens
    read fuel (.more a l ls) rest
  | fuel + 1, .more a l ls, tokens =>
    match tokens with
    | .symbol s :: rest => match l.lookup s with
      | some operator => do
        let (b, rest) ← read fuel (.level ls) rest
        read fuel (.more (.binary operator a b) l ls) rest
      | none => .ok (a, .symbol s :: rest)
    | tokens => .ok (a, tokens)
  | fuel + 1, .unary, tokens =>
    let inner (wrap : Expression → Expression) (rest : List Token) :
        Except Fault (Expression × List Token) := do
      let (e, rest) ← read fuel .unary rest
      return (wrap e, rest)
    match tokens with
    | .symbol "-" :: rest => inner .negate rest
    | .symbol "+" :: rest => inner id rest
    | .symbol "!" :: rest => inner .not rest
    | .symbol "~" :: rest => inner .invert rest
    | tokens => read fuel .primary tokens
  | fuel + 1, .primary, tokens =>
    match tokens with
    | .number n :: rest => .ok (.number n, rest)
    | .name name :: rest => .ok (.variable name, rest)
    | .symbol "(" :: rest => do
      let (e, rest) ← read fuel .assignment rest
      match rest with
      | .symbol ")" :: rest => return (e, rest)
      | _ => throw .expectsParenthesis
    | _ => .error .expectsValue

/-- An expression from its text. -/
def parse (text : Raw) : Except Fault Expression := do
  let (tokens, complete) := tokens (text.length + 1) text
  let (e, rest) ← read (16 * tokens.length + 64) .assignment tokens
  if rest.isEmpty && complete then return e else throw .expectsEnd

/-! ## Values -/

/-- A number as a word of 64 bits. -/
def wrap (n : Int) : Int := n.bmod (Nat.pow 2 64)

/-- The value of a number in a variable; an empty one is zero. -/
def valueOf (text : Raw) : Except Fault Int :=
  let bare := ((text.dropWhile Raw.isSpace).reverse.dropWhile Raw.isSpace).reverse
  if bare.isEmpty then .ok 0
  else match Format.number .signed bare with
    | (n, none) => if bare.head?.all fun c => c.isDigit || c = '-' || c = '+' then .ok n
      else .error (.badNumber text)
    | (_, some _) => .error (.badNumber text)

/-- The truth of a condition as a number. -/
def truth (b : Bool) : Int := if b then 1 else 0

/-- The bits of two words put together. -/
def bits (f : Nat → Nat → Nat) (a b : Int) : Int :=
  f (a % Nat.pow 2 64).toNat (b % Nat.pow 2 64).toNat

/-- The result of an operator. -/
def Operator.apply (operator : Operator) (a b : Int) : Except Fault Int :=
  match operator with
  | .add => .ok (a + b)
  | .subtract => .ok (a - b)
  | .multiply => .ok (a * b)
  | .divide => if b = 0 then .error .divisionByZero else .ok (a.tdiv b)
  | .remainder => if b = 0 then .error .divisionByZero else .ok (a.tmod b)
  | .shiftLeft => .ok (a * Nat.pow 2 (b % 64).toNat)
  | .shiftRight => .ok (a.fdiv (Nat.pow 2 (b % 64).toNat))
  | .less => .ok (truth (a < b))
  | .lessEqual => .ok (truth (a ≤ b))
  | .greater => .ok (truth (b < a))
  | .greaterEqual => .ok (truth (b ≤ a))
  | .equal => .ok (truth (a = b))
  | .different => .ok (truth (a ≠ b))
  | .bitAnd => .ok (bits Nat.land a b)
  | .bitXor => .ok (bits Nat.xor a b)
  | .bitOr => .ok (bits Nat.lor a b)

/-- The values that an expression assigns, the last first. -/
abbrev Assigned := List (Raw × Int)

/-- The value of a variable, given what has been assigned so far. -/
def lookUp (vars : Raw → Option Raw) (name : Raw) : StateT Assigned (Except Fault) Int := do
  match (← get).lookup name with
  | some n => return n
  | none => liftM (valueOf ((vars name).getD []))

/-- The value of an expression, given the values of variables. -/
def Expression.eval (vars : Raw → Option Raw) :
    Expression → StateT Assigned (Except Fault) Int
  | .number n => return n
  | .variable name => lookUp vars name
  | .negate e => return wrap (-(← e.eval vars))
  | .invert e => return -(← e.eval vars) - 1
  | .not e => return truth ((← e.eval vars) = 0)
  | .binary operator a b => do
    let m ← a.eval vars
    let n ← b.eval vars
    return wrap (← operator.apply m n)
  | .and a b => do
    if (← a.eval vars) = 0 then return 0
    return truth ((← b.eval vars) ≠ 0)
  | .or a b => do
    if (← a.eval vars) ≠ 0 then return 1
    return truth ((← b.eval vars) ≠ 0)
  | .conditional condition yes no => do
    if (← condition.eval vars) ≠ 0 then yes.eval vars else no.eval vars
  | .assign name operator e => do
    let n ← e.eval vars
    let value ← match operator with
      | none => pure n
      | some operator => do
        let m ← lookUp vars name
        pure (wrap (← operator.apply m n))
    modify ((name, value) :: ·)
    return value

end Stepwise.Machine.Shell.Arithmetic
