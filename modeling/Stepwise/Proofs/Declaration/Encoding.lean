import Stepwise.Proofs.Declaration.Entries
import Stepwise.Proofs.Declaration.Settings

/-!
# Options written and read again

Options can be written in two ways, setting by setting and field by field, and read in two ways,
loosely and strictly. Both ways of writing give one mapping, and both ways of reading give the
options back. So a declaration that is made of a variable and of options says just that.

* `Setting.ofEntry_toEntry`, `Options.decodeEntry?_toEntry`: one setting is read as it was written.
* `Options.ofValue_toValue`, `Options.decode?_toValue`: so are options, **loosely and strictly**.
* `Options.toValue_eq_encode`: **the two ways of writing agree**, in entries and order.
* `Declaration.withOptions_withOptions`, `options_withOptions`: the last options count, in any
  declaration.
* `Options.round_trip`: all of this together.
-/

namespace Stepwise

/-- What is read one by one as it was written one by one. -/
theorem mapM_map_eq_pure {m : Type → Type} [Monad m] [LawfulMonad m] {α β γ : Type} (read : β → m γ)
    (write : α → β) (found : α → γ) (h : ∀ a, read (write a) = pure (found a)) (xs : List α) :
    (xs.map write).mapM read = pure (xs.map found) := by
  rw [List.mapM_map, ← List.mapM_pure]
  congr 1
  exact funext h

/-! ## One setting -/

namespace Setting

@[simp]
theorem toEntry_fst (s : Setting) : s.toEntry.1 = .text s.name := by
  cases s <;> rfl

theorem readTexts_texts (values : List String) :
    readTexts (.sequence (values.map .text)) = .ok values := by
  have hread := mapM_map_eq_pure readText Value.text id (fun _ => rfl) values
  rwa [List.map_id] at hread

/-- A setting is read as it was written. -/
theorem ofEntry_toEntry (s : Setting) : ofEntry s.toEntry = .ok s := by
  have hread : read s.name s.toEntry.2 = .ok s := by
    cases s with
    | text o v => exact read_text o _
    | choices values =>
      show (readTexts (.sequence (values.map .text))).map choices = _
      rw [readTexts_texts]
      rfl
    | flag o b => exact read_flag o _
  unfold ofEntry
  rw [toEntry_fst]
  show (read s.name s.toEntry.2).mapError _ = .ok s
  rw [hread]
  rfl

end Setting

namespace Options

/-! ## Options -/

/-- **Options are read as they were written.** -/
theorem ofValue_toValue (o : Options) : ofValue o.toValue = .ok o := by
  have hread : (o.settings.map Setting.toEntry).mapM Setting.ofEntry = .ok o.settings := by
    have hsettings := mapM_map_eq_pure _ _ id Setting.ofEntry_toEntry o.settings
    rwa [List.map_id] at hsettings
  rw [toValue, ofValue, hread, Except.map, ofSettings_settings]

/-- A setting that was written is read strictly too. -/
theorem decodeEntry?_toEntry (s : Setting) :
    decodeEntry? s.name s.toEntry.2 = some (some s) := by
  cases s with
  | text o v => cases o <;> rfl
  | choices values =>
    have htexts := mapM_map_eq_pure Value.plainText? Value.text id (fun _ => rfl) values
    show ((values.map Value.text).mapM Value.plainText?).map (some ∘ Setting.choices) = _
    rw [htexts, List.map_id]
    rfl
  | flag o b => cases o <;> rfl

theorem eraseDups_eq_of_nodup {α : Type} [BEq α] [LawfulBEq α] {xs : List α} (h : xs.Nodup) :
    xs.eraseDups = xs := by
  induction xs with
  | nil => rfl
  | cons x xs ih =>
    obtain ⟨hx, hxs⟩ := List.nodup_cons.mp h
    have hfilter : xs.filter (fun y => !y == x) = xs := by
      refine List.filter_eq_self.mpr fun y hy => ?_
      have hne : y ≠ x := fun heq => hx (heq ▸ hy)
      simpa using hne
    rw [List.eraseDups_cons, hfilter, ih hxs]

/-- **Options are read strictly as they were written.** -/
theorem decode?_toValue (o : Options) : decode? o.toValue = some o := by
  let pairs := o.settings.map fun s => (s.name, s.toEntry.2)
  have hnames : ((o.settings.map Setting.toEntry).mapM fun (e : Value × Value) =>
      e.1.plainText?.map (·, e.2)) = some pairs := by
    refine mapM_map_eq_pure _ _ _ (fun s => ?_) o.settings
    rw [Setting.toEntry_fst]
    rfl
  have hfound : (pairs.mapM fun p => decodeEntry? p.1 p.2) = some (o.settings.map some) :=
    mapM_map_eq_pure _ _ _ decodeEntry?_toEntry o.settings
  have hnodup : (pairs.map (·.1)).Nodup := by
    rw [List.map_map]
    exact nodup_names_settings o
  -- the strict reader refuses options that are named twice
  show Option.bind _ decodeNamed? = some o
  rw [hnames, Option.bind_some]
  unfold decodeNamed?
  simp only [eraseDups_eq_of_nodup (hnodup.filter _), Nat.lt_irrefl, if_false, hfound,
    Option.map_some, List.filterMap_map, Function.id_comp, List.filterMap_some, ofSettings_settings]

theorem map_toEntry_texts (o : Options) (ts : List TextOption) :
    (ts.filterMap fun t => (o.textOf t).map (Setting.text t)).map Setting.toEntry =
      ts.flatMap fun t => encodeField t.name ((o.textOf t).map .text) := by
  rw [List.filterMap_eq_flatMap_toList, List.map_flatMap]
  congr 1
  funext t
  cases o.textOf t <;> rfl

theorem map_toEntry_flags (o : Options) (fs : List FlagOption) :
    (fs.filterMap fun f => (o.flagOf f).map (Setting.flag f)).map Setting.toEntry =
      fs.flatMap fun f => encodeField f.name ((o.flagOf f).map .bool) := by
  rw [List.filterMap_eq_flatMap_toList, List.map_flatMap]
  congr 1
  funext f
  cases o.flagOf f <;> rfl

/-- **The two ways of writing agree**: the same entries in the same order. -/
theorem toValue_eq_encode (o : Options) : o.toValue = o.encode := by
  have hchoices :
      (if o.choices.isEmpty then [] else [Setting.choices o.choices]).map Setting.toEntry =
      encodeField "value_options"
        (if o.choices.isEmpty then none else some (.sequence (o.choices.map .text))) := by
    cases o.choices.isEmpty <;> rfl
  unfold toValue settings
  rw [List.map_append, List.map_append, map_toEntry_texts, map_toEntry_flags, hchoices]
  simp only [encode, TextOption.all, FlagOption.all, List.flatMap_cons, List.flatMap_nil,
    List.append_nil, List.append_assoc, textOf, flagOf, TextOption.name, FlagOption.name]

end Options

/-! ## Declarations with options -/

namespace Value.Entries

theorem get?_insert_text (s : String) (value : Value) (entries : Entries) :
    (entries.insert (.text s) value).get? (.text s) = some value := by
  unfold get?
  induction entries with
  | nil => simp [insert, same]
  | cons e entries ih =>
    unfold insert
    cases he : (Value.text s).same e.1 with
    | true => simp [he]
    | false => simpa [he] using ih

theorem insert_insert_text (s : String) (value other : Value) (entries : Entries) :
    (entries.insert (.text s) value).insert (.text s) other = entries.insert (.text s) other := by
  induction entries with
  | nil => simp [insert, same]
  | cons e entries ih =>
    unfold insert
    cases he : (Value.text s).same e.1 with
    | true => simp [he, insert]
    | false => simp [he, insert, ih]

end Value.Entries

namespace Declaration

/-- The options that were put into a declaration are its options. -/
theorem options_withOptions (d : Declaration) (o : Options) :
    (d.withOptions o).options = .ok o := by
  unfold options withOptions
  rw [Value.Entries.get?_insert_text]
  exact Options.ofValue_toValue o

theorem readOptions_withOptions (d : Declaration) (o : Options) :
    (d.withOptions o).readOptions = .ok o := by
  rw [readOptions, options_withOptions]
  rfl

/-- Options take the place of those that were put in before. -/
theorem withOptions_withOptions (d : Declaration) (o o' : Options) :
    (d.withOptions o).withOptions o' = d.withOptions o' := by
  unfold withOptions
  rw [Value.Entries.insert_insert_text]

theorem entries_plain_withOptions {key : String} (h : key ≠ optionsKey) (value : String)
    (o : Options) : ((plain key value).withOptions o).entries =
      [(.text key, .text value), (.text optionsKey, o.toValue)] := by
  have hsame : (Value.text optionsKey).same (.text key) = false := by
    simpa [Value.same] using Ne.symm h
  simp only [plain, withOptions, Value.Entries.insert, hsame]
  rfl

/-- Options beside a variable do not change what it is called or its text. -/
theorem keyValue_plain_withOptions {key : String} (hne : key ≠ "") (hopts : key ≠ optionsKey)
    (value : String) (o : Options) :
    ((plain key value).withOptions o).keyValue = .ok (key, value) := by
  refine keyValue_eq_ok.mpr ⟨(.text key, .text value), some (.text optionsKey, o.toValue),
    ⟨rfl, hne, hopts, rfl⟩, ?_, ?_⟩
  · rintro e ⟨⟩
    rfl
  · rw [entries_plain_withOptions hopts]
    exact .refl _

end Declaration

/-- **Options are read as they are written**, on every path. Both readings give them back from what
is written for them, and both ways of writing give that value. So a variable with options keeps its
name and its text and has these options; and options that are put in later only take their place. -/
theorem Options.round_trip (o : Options) :
    Options.ofValue o.toValue = .ok o ∧ Options.decode? o.toValue = some o ∧ o.toValue = o.encode ∧
    ∀ key value, key ≠ "" → key ≠ Declaration.optionsKey →
      ((Declaration.plain key value).withOptions o).keyValue = .ok (key, value) ∧
      ((Declaration.plain key value).withOptions o).readOptions = .ok o ∧
      ∀ o' : Options,
        (((Declaration.plain key value).withOptions o).withOptions o').entries =
          [(.text key, .text value), (.text Declaration.optionsKey, o'.toValue)] ∧
        (((Declaration.plain key value).withOptions o).withOptions o').keyValue = .ok (key, value) ∧
        (((Declaration.plain key value).withOptions o).withOptions o').readOptions = .ok o' := by
  refine ⟨ofValue_toValue o, decode?_toValue o, toValue_eq_encode o, fun key value hne hopts =>
    ⟨Declaration.keyValue_plain_withOptions hne hopts value o,
      Declaration.readOptions_withOptions _ o, fun o' => ?_⟩⟩
  rw [Declaration.withOptions_withOptions]
  exact ⟨Declaration.entries_plain_withOptions hopts value o',
    Declaration.keyValue_plain_withOptions hne hopts value o',
    Declaration.readOptions_withOptions _ o'⟩

/-- A level with suggested values, of which options that come later leave nothing. -/
theorem Options.round_trip_replaced :
    let suggested : Options :=
      { title := some "", choices := ["", "debug"], unset := some false, isSensitive := some true }
    let level := (Declaration.plain "LEVEL" "debug").withOptions suggested
    suggested.toValue = .mapping
      [(.text "title", .text ""), (.text "value_options", .sequence [.text "", .text "debug"]),
       (.text "unset", .bool false), (.text "is_sensitive", .bool true)] ∧
    "LEVEL" ≠ "" ∧ "LEVEL" ≠ Declaration.optionsKey ∧
    level.keyValue = .ok ("LEVEL", "debug") ∧ level.readOptions = .ok suggested ∧
    (level.withOptions {}).readOptions = .ok {} := by
  intro suggested level
  obtain ⟨-, -, hencode, hplain⟩ := round_trip suggested
  obtain ⟨hkey, hread, hreplaced⟩ := hplain "LEVEL" "debug" (by decide) (by decide)
  exact ⟨hencode, by decide, by decide, hkey, hread, (hreplaced {}).2.2⟩

end Stepwise
