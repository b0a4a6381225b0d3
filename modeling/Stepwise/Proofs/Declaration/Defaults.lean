import Stepwise.Proofs.Declaration.Encoding

/-!
# Defaults written out

The defaults of a declaration's options are written into the declaration itself. The options are
read first, so nothing is written if they cannot be read. What is written holds every option that
was given, and a default for each missing one that has a default; so there is nothing left to fill
in.

* `Value.Entries.Puts`: the entries of a mapping with a value put under a key.
* `FlagOption.default?`: the defaults of the flags. `Options.Fills`: options, and the same with
  their defaults.
* `Options.fills_withDefaults`: what is given stays, and what is missing gets its default.
* `Declaration.run_fill`: the two ways in which filling in ends.
* `Declaration.fill_writes_defaults`: **all or nothing, and once for all.**
-/

namespace Stepwise

namespace Value.Entries

/-- A value is put under a key: in its place, or at the end if the key is new. -/
inductive Puts (key value : Value) : Entries → Entries → Prop
  | replaced {before after : Entries} {old : Value} (h : ∀ e ∈ before, e.1 ≠ key) :
      Puts key value (before ++ (key, old) :: after) (before ++ (key, value) :: after)
  | added {entries : Entries} (h : ∀ e ∈ entries, e.1 ≠ key) :
      Puts key value entries (entries ++ [(key, value)])

theorem Puts.cons {key value : Value} {e : Value × Value} {xs ys : Entries} (he : e.1 ≠ key)
    (h : Puts key value xs ys) : Puts key value (e :: xs) (e :: ys) := by
  cases h with
  | replaced h => exact .replaced (List.forall_mem_cons.mpr ⟨he, h⟩)
  | added h => exact .added (List.forall_mem_cons.mpr ⟨he, h⟩)

theorem puts_insert_text (s : String) (value : Value) (entries : Entries) :
    Puts (.text s) value entries (entries.insert (.text s) value) := by
  induction entries with
  | nil => exact .added (List.forall_mem_nil _)
  | cons e entries ih =>
    unfold insert
    cases he : (Value.text s).same e.1 with
    | true =>
      obtain ⟨k, old⟩ := e
      obtain rfl : k = .text s := same_text_iff.mp he
      have hfront : Puts (.text s) value ([] ++ (.text s, old) :: entries)
          ([] ++ (.text s, value) :: entries) := .replaced (List.forall_mem_nil _)
      exact hfront
    | false => exact ih.cons fun heq => Bool.false_ne_true (he ▸ same_text_iff.mpr heq)

/-- The entries under other keys stay as they are, in their order. -/
theorem Puts.filter {s : String} {value : Value} {xs ys : Entries}
    (h : Puts (.text s) value xs ys) :
    ys.filter (fun e => !(Value.text s).same e.1) =
      xs.filter fun e => !(Value.text s).same e.1 := by
  have hsame : (Value.text s).same (.text s) = true := same_text_iff.mpr rfl
  cases h <;> simp [hsame]

end Value.Entries

/-! ## Options with their defaults -/

/-- What a missing flag is filled in with. Two of the flags have no default. -/
def FlagOption.default? : FlagOption → Option Bool
  | .isRequired => some false
  | .isExpand => some true
  | .isDontChangeValue => some false
  | .isTemplate => some false
  | .skipIfEmpty => some false
  | .unset => none
  | .isSensitive => none

namespace Options

/-- Options with their defaults: what was given stays, a missing text is empty and a missing flag
has its default. -/
structure Fills (o filled : Options) : Prop where
  given : ∀ s, o.Gives s → filled.Gives s
  texts : ∀ t, o.textOf t = none → filled.textOf t = some ""
  flags : ∀ f, o.flagOf f = none → filled.flagOf f = f.default?

theorem textOf_withDefaults (o : Options) (t : TextOption) :
    o.withDefaults.textOf t = some ((o.textOf t).getD "") := by
  cases t <;> rfl

theorem flagOf_withDefaults (o : Options) (f : FlagOption) :
    o.withDefaults.flagOf f = (o.flagOf f).or f.default? := by
  cases f <;> simp [withDefaults, flagOf, FlagOption.default?]

/-- **Defaults go where nothing was given.** -/
theorem fills_withDefaults (o : Options) : o.Fills o.withDefaults := by
  refine ⟨fun s hs => ?_, fun t ht => ?_, fun f hf => ?_⟩
  · cases s with
    | text t v =>
      have ht : o.textOf t = some v := hs
      show o.withDefaults.textOf t = some v
      rw [textOf_withDefaults, ht]
      rfl
    | choices values => exact hs
    | flag f b =>
      have hf : o.flagOf f = some b := hs
      show o.withDefaults.flagOf f = some b
      rw [flagOf_withDefaults, hf]
      rfl
  · rw [textOf_withDefaults, ht]
    rfl
  · rw [flagOf_withDefaults, hf]
    rfl

theorem withDefaults_withDefaults (o : Options) : o.withDefaults.withDefaults = o.withDefaults :=
  rfl

end Options

/-! ## Filling in -/

namespace Declaration

/-- The entries beside the options. An entry whose key is the same text under a tag is one of
them. -/
def otherEntries (d : Declaration) : Value.Entries :=
  d.entries.filter fun e => !(Value.text optionsKey).same e.1

/-- Filling in reads the options, and writes only if they can be read. -/
theorem run_fill (d : Declaration) : fill.run.run d =
    match d.options with
    | .error fault => (.error fault, d)
    | .ok o => (.ok (), d.withOptions o.withDefaults) := by
  have hread : fill.run.run d =
      ((liftM d.options : ExceptT (String × OptionFault) (StateM Declaration) Options) >>= fun o =>
        set (d.withOptions o.withDefaults)).run.run d := rfl
  rw [hread]
  cases d.options with
  | error fault => rfl
  | ok o => rfl

theorem otherEntries_withOptions (d : Declaration) (o : Options) :
    (d.withOptions o).otherEntries = d.otherEntries :=
  (Value.Entries.puts_insert_text optionsKey o.toValue d.entries).filter

/-- **Filling in writes all defaults or nothing.** Options that cannot be read end it with their
fault, and the declaration is as it was. Otherwise its options are those that it had, with the
defaults of the missing ones; they stand where its options stood, or at the end if it had none, and
every other entry is as it was. Filling in once more changes nothing. -/
theorem fill_writes_defaults (d : Declaration) :
    match fill.run.run d with
    | (.error fault, after) => d.options = .error fault ∧ after = d
    | (.ok (), after) =>
      ∃ o filled, d.options = .ok o ∧ after.options = .ok filled ∧ o.Fills filled ∧
        Value.Entries.Puts (.text optionsKey) filled.toValue d.entries after.entries ∧
        after.otherEntries = d.otherEntries ∧ fill.run.run after = (.ok (), after) := by
  rw [run_fill]
  cases h : d.options with
  | error fault => exact ⟨rfl, rfl⟩
  | ok o =>
    have hoptions := options_withOptions d o.withDefaults
    refine ⟨o, o.withDefaults, rfl, hoptions, o.fills_withDefaults,
      Value.Entries.puts_insert_text _ _ _, otherEntries_withOptions _ _, ?_⟩
    rw [run_fill, hoptions]
    show (_, (d.withOptions o.withDefaults).withOptions o.withDefaults.withDefaults) = _
    rw [withOptions_withOptions, Options.withDefaults_withDefaults]

example :
    let url : Declaration :=
      ⟨[(.text "opts", .mapping [(.text "is_expand", .text "No")]), (.text "URL", .null)]⟩
    let filled := Options.withDefaults { isExpand := some false }
    url.fillDefaults = .ok ⟨[(.text "opts", filled.toValue), (.text "URL", .null)]⟩ := rfl

end Declaration

end Stepwise
