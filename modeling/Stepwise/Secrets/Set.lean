import Stepwise.Resolution
import Stepwise.Secrets.Redaction

/-!
# The set of secrets

The secret values of a run (`SecretSet`), in the order in which they were first seen, without empty
values and without repetition. A value of several lines comes with the variant in which each line
break is written as `\n`, so that an escaped rendering of it is hidden too.

* `SecretSet.ofDeclarations` (`from_items`): every value that secret declarations set, also one that
  is overwritten or unset later.
* `SecretSet.redact`: a text with every secret hidden.
* `SecretSet.ofEnvironment` (`from_variables`): the values of sensitive variables.
* `filtersSecrets` (`is_secret_filtering`): whether a run hides its secrets at all.
-/

namespace Stepwise

/-- The secret values of a run. -/
structure SecretSet where
  values : List String := []
  deriving DecidableEq, Inhabited

namespace SecretSet

/-- Whether a value is a secret. -/
def contains (set : SecretSet) (value : String) : Bool :=
  value ∈ set.values

/-- The set with one more value, unless it is there. -/
def push (set : SecretSet) (value : String) : SecretSet :=
  if set.contains value then set else ⟨set.values ++ [value]⟩

/-- A value with its line breaks written as `\n`. -/
def escapeLines (value : String) : String :=
  String.ofList (value.toList.flatMap fun c => if c = '\n' then ['\\', 'n'] else [c])

/-- The values that one value adds to a set. -/
def variants (value : String) : List String :=
  if value = "" then []
  else if '\n' ∈ value.toList then [value, escapeLines value]
  else [value]

/-- The set with more values. -/
def extend (set : SecretSet) (values : List String) : SecretSet :=
  (values.flatMap variants).foldl push set

/-- The set of a list of values. -/
def ofList (values : List String) : SecretSet :=
  extend {} values

/-- The set with the values of another. -/
def merge (set other : SecretSet) : SecretSet :=
  other.values.foldl push set

/-- The values that secret declarations set when they are resolved on their own. -/
def ofDeclarations (declarations : List Declaration) : Except Error SecretSet :=
  (resolve declarations .empty).map fun r => ofList (r.history.filterMap Command.value?)

/-- The values of the sensitive variables of an environment. -/
def ofEnvironment (env : Environment) : SecretSet :=
  ofList env.sensitiveValues

/-- The secrets as byte strings. -/
def bytes (set : SecretSet) : List Bytes :=
  set.values.map Utf8.encode

/-- The number of bytes of the longest secret. -/
def maxLength (set : SecretSet) : Nat :=
  (set.bytes.map List.length).foldl max 0

/-- A byte string with every secret hidden. -/
def redactBytes (set : SecretSet) (input : Bytes) : Bytes :=
  Redaction.redact set.bytes input

/-- A text with every secret hidden. -/
def redact (set : SecretSet) (text : String) : String :=
  Utf8.decodeLossy (set.redactBytes (Utf8.encode text))

end SecretSet

/-- The variable that switches the hiding of secrets. -/
def filteringKey : String := "RUNWAY_SECRET_FILTERING"

/-- Whether secrets are hidden. A flag decides; without one, the secret declarations do so if they
set the variable to anything but `true`. -/
def filtersSecrets (flag : Option Bool) (secrets : List Declaration) : Except Error Bool :=
  match flag with
  | some b => .ok b
  | none => (resolve secrets .empty).map fun r =>
    match r.result.value? filteringKey with
    | none => true
    | some value => value = "true"

end Stepwise
