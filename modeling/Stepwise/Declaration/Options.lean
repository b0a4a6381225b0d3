import Stepwise.Declaration.Basic

/-!
# Options of a declaration

Options (`EnvironmentItemOptions`) say how a declaration is resolved and describe it to a reader. An
option that is not given is kept apart from one that is given its default.

* `Setting`: one option with its value. `Setting.ofEntry` reads an entry of the options mapping
  (`cast_bool`, `cast_string`, `cast_string_list`); what it accepts does not depend on the other
  entries.
* `Options.settings` lists the options that are given, in the order in which they are written, and
  `Options.ofSettings` puts them together again.
* `Options.ofValue` (`from_value`): the options of a raw value, `Options.toValue` (`to_value`) the
  value that they are written as.
* `Options.decode?`: the strict reading, in which a text must be a text and a flag a bool.
  `Options.encode`: the options as a record writes its fields.
* `Declaration.withOptions` (`with_options`): a declaration with other options.
* `Declaration.fill` (`fill_defaults`): the defaults of the options, written into the declaration
  that has them.
-/

namespace Stepwise

/-- The options that hold a text. -/
inductive TextOption where
  | title
  | description
  | summary
  | category
  deriving DecidableEq

/-- The options that are a switch. -/
inductive FlagOption where
  | isRequired
  | isExpand
  | isDontChangeValue
  | isTemplate
  | skipIfEmpty
  | unset
  | isSensitive
  deriving DecidableEq

def TextOption.name : TextOption → String
  | .title => "title"
  | .description => "description"
  | .summary => "summary"
  | .category => "category"

def FlagOption.name : FlagOption → String
  | .isRequired => "is_required"
  | .isExpand => "is_expand"
  | .isDontChangeValue => "is_dont_change_value"
  | .isTemplate => "is_template"
  | .skipIfEmpty => "skip_if_empty"
  | .unset => "unset"
  | .isSensitive => "is_sensitive"

/-- The texts, in the order in which they are written. -/
def TextOption.all : List TextOption := [.title, .description, .summary, .category]

/-- The flags, in the order in which they are written. -/
def FlagOption.all : List FlagOption :=
  [.isRequired, .isExpand, .isDontChangeValue, .isTemplate, .skipIfEmpty, .unset, .isSensitive]

/-- The name of the list of suggested values. -/
def choicesName : String := "value_options"

/-- Why an options mapping cannot be read. -/
inductive OptionFault where
  | notMapping (kind : Value.Kind)
  | keyNotText
  | notFlag (value : Value)
  | notText (kind : Value.Kind)
  | notList (kind : Value.Kind)
  | unsupported

/-- An option fault in words. -/
def OptionFault.message : OptionFault → String
  | .notMapping kind => "expected a mapping, found " ++ kind.description
  | .keyNotText => "option keys must be strings"
  | .notFlag value => "failed to parse bool value (" ++ value.shown ++ ")"
  | .notText kind => "expected a string, found " ++ kind.description
  | .notList kind => "expected a sequence, found " ++ kind.description
  | .unsupported => "not a supported option"

/-- One option with its value. -/
inductive Setting where
  | text (option : TextOption) (value : String)
  | choices (values : List String)
  | flag (option : FlagOption) (value : Bool)
  deriving DecidableEq

namespace Setting

/-- The bool that a word stands for, in any case of its ASCII letters. -/
def flagOfWord? (word : String) : Option Bool :=
  let lower := String.ofList (word.toList.map Char.toLower)
  if lower ∈ ["true", "yes", "y", "1"] then some true
  else if lower ∈ ["false", "no", "n", "0"] then some false
  else none

/-- The bool of a flag's value. -/
def readFlag (value : Value) : Except OptionFault Bool :=
  let parsed := match value with
    | .bool b => some b
    | .text s => flagOfWord? s
    | _ => none
  match parsed with
  | some b => .ok b
  | none => .error (.notFlag value)

/-- The text of a text option's value. -/
def readText (value : Value) : Except OptionFault String :=
  match value.wordText? with
  | some s => .ok s
  | none => .error (.notText value.kind)

/-- The texts of a list option's value. -/
def readTexts (value : Value) : Except OptionFault (List String) :=
  match value with
  | .sequence items => items.mapM readText
  | v => .error (.notList v.kind)

/-- The option of a name, with its value read. -/
def read (name : String) (value : Value) : Except OptionFault Setting :=
  match TextOption.all.find? (·.name = name), FlagOption.all.find? (·.name = name) with
  | some o, _ => (readText value).map (.text o)
  | none, some o => (readFlag value).map (.flag o)
  | none, none =>
    if name = choicesName then (readTexts value).map .choices else .error .unsupported

/-- An entry of an options mapping. An error comes with the name of the option it is about. -/
def ofEntry (entry : Value × Value) : Except (String × OptionFault) Setting :=
  match entry.1.asText? with
  | some name => (read name entry.2).mapError (name, ·)
  | none => .error (entry.1.shown, .keyNotText)

/-- The entry that an option is written as. -/
def toEntry : Setting → Value × Value
  | .text o s => (.text o.name, .text s)
  | .choices values => (.text choicesName, .sequence (values.map .text))
  | .flag o b => (.text o.name, .bool b)

end Setting

/-- The options of a declaration. -/
structure Options where
  title : Option String := none
  description : Option String := none
  summary : Option String := none
  category : Option String := none
  choices : List String := []
  isRequired : Option Bool := none
  isExpand : Option Bool := none
  isDontChangeValue : Option Bool := none
  isTemplate : Option Bool := none
  skipIfEmpty : Option Bool := none
  unset : Option Bool := none
  isSensitive : Option Bool := none
  deriving DecidableEq, Inhabited

namespace Options

/-! ## Single options -/

/-- A text option's value. -/
def textOf (o : Options) : TextOption → Option String
  | .title => o.title
  | .description => o.description
  | .summary => o.summary
  | .category => o.category

/-- A flag's value. -/
def flagOf (o : Options) : FlagOption → Option Bool
  | .isRequired => o.isRequired
  | .isExpand => o.isExpand
  | .isDontChangeValue => o.isDontChangeValue
  | .isTemplate => o.isTemplate
  | .skipIfEmpty => o.skipIfEmpty
  | .unset => o.unset
  | .isSensitive => o.isSensitive

/-- The options with one more option given. -/
def set (o : Options) : Setting → Options
  | .text .title s => { o with title := some s }
  | .text .description s => { o with description := some s }
  | .text .summary s => { o with summary := some s }
  | .text .category s => { o with category := some s }
  | .choices values => { o with choices := values }
  | .flag .isRequired b => { o with isRequired := some b }
  | .flag .isExpand b => { o with isExpand := some b }
  | .flag .isDontChangeValue b => { o with isDontChangeValue := some b }
  | .flag .isTemplate b => { o with isTemplate := some b }
  | .flag .skipIfEmpty b => { o with skipIfEmpty := some b }
  | .flag .unset b => { o with unset := some b }
  | .flag .isSensitive b => { o with isSensitive := some b }

/-- Options from a list of settings; the last of several for one option wins. -/
def ofSettings (settings : List Setting) : Options :=
  settings.foldl set {}

/-- The options that are given, in the order in which they are written. An empty list of choices
is the same as none. -/
def settings (o : Options) : List Setting :=
  TextOption.all.filterMap (fun t => (o.textOf t).map (.text t)) ++
    (if o.choices.isEmpty then [] else [.choices o.choices]) ++
    FlagOption.all.filterMap (fun f => (o.flagOf f).map (.flag f))

/-! ## What resolution asks -/

/-- Whether references in the value are expanded. -/
def expands (o : Options) : Bool := o.isExpand.getD false

/-- Whether an empty value leaves the variable alone. -/
def skipsIfEmpty (o : Options) : Bool := o.skipIfEmpty.getD false

/-- Whether the variable is removed. -/
def unsets (o : Options) : Bool := o.unset.getD false

/-- Whether the value is declared sensitive. -/
def sensitive (o : Options) : Bool := o.isSensitive.getD false

/-! ## Reading and writing -/

/-- The options of a raw value; null gives none. An error comes with the name of the option. -/
def ofValue : Value → Except (String × OptionFault) Options
  | .mapping entries => (entries.mapM Setting.ofEntry).map ofSettings
  | .null => .ok {}
  | v => .error (Declaration.optionsKey, .notMapping v.kind)

/-- The mapping that options are written as. -/
def toValue (o : Options) : Value :=
  .mapping (o.settings.map Setting.toEntry)

/-- The options with every missing text and flag of these nine given its default. -/
def withDefaults (o : Options) : Options :=
  { o with
    title := some (o.title.getD "")
    description := some (o.description.getD "")
    summary := some (o.summary.getD "")
    category := some (o.category.getD "")
    isRequired := some (o.isRequired.getD false)
    isExpand := some (o.isExpand.getD true)
    isDontChangeValue := some (o.isDontChangeValue.getD false)
    isTemplate := some (o.isTemplate.getD false)
    skipIfEmpty := some (o.skipIfEmpty.getD false) }

/-- The option of a name in the strict reading: `none` if the value has another type, and nothing
for null or for a name that is no option. -/
def decodeEntry? (name : String) (value : Value) : Option (Option Setting) :=
  match TextOption.all.find? (·.name = name), FlagOption.all.find? (·.name = name) with
  | some o, _ => match value with
    | .text s => some (some (.text o s))
    | .null => some none
    | _ => none
  | none, some o => match value with
    | .bool b => some (some (.flag o b))
    | .null => some none
    | _ => none
  | none, none =>
    if name = choicesName then match value with
      | .sequence items =>
        (items.mapM Value.plainText?).map fun values => some (.choices values)
      | _ => none
    else some none

/-- The names of the options in the order of their declaration. -/
def names : List String :=
  TextOption.all.map (·.name) ++ [choicesName] ++ FlagOption.all.map (·.name)

/-- The options of named values in the strict reading, which refuses an option given twice. -/
def decodeNamed? (pairs : List (String × Value)) : Option Options :=
  let known := (pairs.map (·.1)).filter (· ∈ names)
  if known.eraseDups.length < known.length then none
  else (pairs.mapM fun p => decodeEntry? p.1 p.2).map fun found => ofSettings (found.filterMap id)

/-- The options of a value in the strict reading: a mapping from names, or the values alone in the
order of `names`. -/
def decode? : Value → Option Options
  | .mapping entries =>
    (entries.mapM fun (e : Value × Value) => e.1.plainText?.map (·, e.2)).bind decodeNamed?
  | .sequence items => if names.length < items.length then none else decodeNamed? (names.zip items)
  | _ => none

/-- The entry of a field that has a value. -/
def encodeField (name : String) (value : Option Value) : Value.Entries :=
  value.toList.map fun v => (.text name, v)

/-- The mapping that options are encoded as, field by field. A field without a value is left out,
and so is an empty list. -/
def encode (o : Options) : Value :=
  .mapping <|
    encodeField "title" (o.title.map .text) ++
    encodeField "description" (o.description.map .text) ++
    encodeField "summary" (o.summary.map .text) ++
    encodeField "category" (o.category.map .text) ++
    encodeField "value_options"
      (if o.choices.isEmpty then none else some (.sequence (o.choices.map .text))) ++
    encodeField "is_required" (o.isRequired.map .bool) ++
    encodeField "is_expand" (o.isExpand.map .bool) ++
    encodeField "is_dont_change_value" (o.isDontChangeValue.map .bool) ++
    encodeField "is_template" (o.isTemplate.map .bool) ++
    encodeField "skip_if_empty" (o.skipIfEmpty.map .bool) ++
    encodeField "unset" (o.unset.map .bool) ++
    encodeField "is_sensitive" (o.isSensitive.map .bool)

end Options

namespace Declaration

/-- The options of a declaration; without an options entry, none are given. -/
def options (d : Declaration) : Except (String × OptionFault) Options :=
  match d.entries.get? (.text optionsKey) with
  | some value => Options.ofValue value
  | none => .ok {}

/-- A plain declaration of one variable. -/
def plain (key value : String) : Declaration :=
  ⟨[(.text key, .text value)]⟩

/-- The declaration with its options replaced. -/
def withOptions (d : Declaration) (o : Options) : Declaration :=
  ⟨d.entries.insert (.text optionsKey) o.toValue⟩

/-- A declaration whose value is expanded. -/
def expanded (key value : String) : Declaration :=
  (plain key value).withOptions { isExpand := some true }

/-- A declaration whose value is taken as it is. -/
def literal (key value : String) : Declaration :=
  (plain key value).withOptions { isExpand := some false }

/-- A declaration that removes a variable. -/
def removal (key : String) : Declaration :=
  (plain key "").withOptions { unset := some true }

/-- Write the defaults of the options out, in a declaration that is changed in place. -/
def fill : ExceptT (String × OptionFault) (StateM Declaration) Unit := do
  let d ← get
  let o ← d.options
  set (d.withOptions o.withDefaults)

/-- The declaration with the defaults of its options written out. -/
def fillDefaults (d : Declaration) : Except (String × OptionFault) Declaration :=
  let (outcome, filled) := fill.run.run d
  outcome.map fun _ => filled

end Declaration

end Stepwise
