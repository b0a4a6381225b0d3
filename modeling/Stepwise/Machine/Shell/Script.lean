import Stepwise.Machine.Raw

/-!
# Scripts

What a script of the shell says. A word is a list of parts, of which some are quoted. Everything
that can be expanded is kept as it is written, since its meaning depends on when it is run.
-/

namespace Stepwise.Machine.Shell

/-- What `${name…}` asks for if a variable has no value. -/
inductive Fallback where
  /-- Use a word. -/
  | use
  /-- Use a word and assign it. -/
  | assign
  /-- Use a word only if there is a value. -/
  | alternative
  /-- Fail with a message. -/
  | fail
  deriving DecidableEq, Inhabited

/-- How a redirection uses a file or descriptor. -/
inductive RedirectKind where
  | read
  | write
  /-- Like `write`, also where existing files are kept. -/
  | overwrite
  | append
  | readWrite
  | duplicate
  | document
  deriving DecidableEq, Inhabited

mutual

/-- A part of a word. -/
inductive Part where
  | text (content : Raw) (quoted : Bool)
  | home
  | parameter (name : Raw) (use : ParameterUse) (quoted : Bool)
  | substitution (script : Script) (quoted : Bool)
  | arithmetic (expression : List Part) (quoted : Bool)

/-- What is done with the value of a parameter. -/
inductive ParameterUse where
  | plain
  | length
  /-- What to do if it is unset, or also if it is empty. -/
  | fallback (kind : Fallback) (orEmpty : Bool) (word : List Part)
  /-- Remove what matches a pattern from one end. -/
  | trim (fromEnd longest : Bool) (pattern : List Part)
  /-- A use that does not exist. -/
  | invalid

/-- A redirection of a descriptor. -/
inductive Redirect where
  | mk (descriptor : Nat) (kind : RedirectKind) (target : List Part)

/-- A command. -/
inductive Script where
  | nothing
  | simple (line : Nat) (assignments : List (Raw × List Part)) (words : List (List Part))
      (redirects : List Redirect)
  | pipeline (stages : List Script)
  | negation (command : Script)
  | both (first second : Script)
  | either (first second : Script)
  | sequence (first second : Script)
  | background (command : Script)
  | subshell (body : Script)
  | redirected (line : Nat) (body : Script) (redirects : List Redirect)
  | branch (condition yes no : Script)
  | loop (isUntil : Bool) (condition body : Script)
  | each (name : Raw) (words : Option (List (List Part))) (body : Script)
  | choice (word : List Part) (clauses : List (List (List Part) × Script))
  | function (name : Raw) (body : Script)

end

instance : Inhabited Script := ⟨.nothing⟩
instance : Inhabited Part := ⟨.text [] false⟩

/-- A word. -/
abbrev Word := List Part

end Stepwise.Machine.Shell
