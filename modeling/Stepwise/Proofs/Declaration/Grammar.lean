import Stepwise.Proofs.Declaration.Entries
import Stepwise.Proofs.Declaration.Settings

/-!
# The grammar of declarations

What can be read of a declaration is told here without the reader: a variable with a scalar, and
perhaps options, each of which has a value of its type. The grammar looks at the entries one by one,
so the order in which they stand says nothing.

* `Value.IsWord`, `Value.IsScalar`, `Setting.IsFlag`: the values of texts, variables and flags.
* `Setting.Fits`, `Options.IsWritten`, `Declaration.IsWritten`: **the grammar**, of one option, of
  options and of declarations.
* `Setting.exists_read_iff`, `Options.exists_ofValue_iff`, `Declaration.readable_iff_isWritten`:
  what can be read is what the grammar allows.
* `Declaration.Reordered`: the same entries in another order, and the same options in another order.
* `Options.ofValue_perm`: **the order of options does not matter**.
* `Declaration.read_by_grammar`: all of this together.
-/

namespace Stepwise

/-! ## Values -/

namespace Value

/-- A text, a bool or a number. -/
inductive IsWord : Value → Prop
  | text (s : String) : IsWord (.text s)
  | bool (b : Bool) : IsWord (.bool b)
  | number (n : Number) : IsWord (.number n)

/-- What gives a variable its text: nothing or a word. -/
inductive IsScalar : Value → Prop
  | null : IsScalar .null
  | word {v : Value} (h : v.IsWord) : IsScalar v

theorem exists_wordText?_iff {v : Value} : (∃ s, v.wordText? = some s) ↔ v.IsWord := by
  constructor
  · rintro ⟨s, hs⟩
    cases v with
    | text s => exact .text s
    | bool b => exact .bool b
    | number n => exact .number n
    | _ => cases hs
  · rintro (s | b | n)
    · exact ⟨s, rfl⟩
    · exact ⟨boolText b, rfl⟩
    · exact ⟨n.text, rfl⟩

theorem exists_scalarText?_iff {v : Value} : (∃ s, v.scalarText? = some s) ↔ v.IsScalar := by
  constructor
  · rintro ⟨s, hs⟩
    cases v with
    | null => exact .null
    | _ => exact .word (exists_wordText?_iff.mp ⟨s, hs⟩)
  · rintro (_ | h)
    · exact ⟨"", rfl⟩
    · obtain ⟨s, hs⟩ := exists_wordText?_iff.mpr h
      exact ⟨s, by cases h <;> exact hs⟩

namespace Entries

/-- No key stands twice. -/
def Distinct (entries : Entries) : Prop :=
  entries.Pairwise fun earlier later => later.1.same earlier.1 = false

theorem Distinct.append_new {entries : Entries} {e : Value × Value} (h : entries.Distinct)
    (hnew : (entries.get? e.1).isSome = false) : Distinct (entries ++ [e]) := by
  refine List.pairwise_append.mpr
    ⟨h, List.pairwise_singleton _ _, fun earlier hmem later hlater => ?_⟩
  obtain rfl := List.mem_singleton.mp hlater
  simp only [get?, Option.isSome_map, List.find?_isSome, Bool.eq_false_iff, ne_eq, not_exists,
    not_and] at hnew
  exact Bool.eq_false_iff.mpr (hnew earlier hmem)

/-- **In a mapping that a document holds no key stands twice.** -/
theorem distinct_of_ofDistinct? {pairs : List (Value × Value)} {entries : Entries}
    (h : ofDistinct? pairs = some entries) : entries.Distinct := by
  suffices hfold : ∀ before : Entries, before.Distinct →
      pairs.foldlM (fun entries e =>
        if (entries.get? e.1).isSome then none else some (entries ++ [e])) before = some entries →
      entries.Distinct from hfold [] .nil h
  clear h
  induction pairs with
  | nil => exact fun before hbefore h => Option.some.inj h ▸ hbefore
  | cons e pairs ih =>
    intro before hbefore h
    rw [List.foldlM_cons] at h
    cases hnew : (before.get? e.1).isSome with
    | true => simp [hnew] at h
    | false =>
      simp only [hnew, Bool.false_eq_true, if_false, Option.bind_eq_bind, Option.bind_some] at h
      exact ih _ (hbefore.append_new hnew) h

end Entries

end Value

namespace Setting

/-- The words that stand for a bool. -/
def flagWords : List String := ["true", "yes", "y", "1", "false", "no", "n", "0"]

/-- Texts that differ at most in the case of ASCII letters. -/
def SameLetters (s t : String) : Prop :=
  s.toList.map Char.toLower = t.toList.map Char.toLower

/-- What a flag is set to: a bool, or a word for one. -/
inductive IsFlag : Value → Prop
  | bool (b : Bool) : IsFlag (.bool b)
  | word {s w : String} (hw : w ∈ flagWords) (h : SameLetters s w) : IsFlag (.text s)

/-- The grammar of one option: its name, and a value of its type. -/
inductive Fits : String → Value → Prop
  | text (o : TextOption) {v : Value} (h : v.IsWord) : Fits o.name v
  | choices {items : List Value} (h : ∀ v ∈ items, v.IsWord) : Fits choicesName (.sequence items)
  | flag (o : FlagOption) {v : Value} (h : IsFlag v) : Fits o.name v

example : Options.names =
    ["title", "description", "summary", "category", "value_options", "is_required", "is_expand",
     "is_dont_change_value", "is_template", "skip_if_empty", "unset", "is_sensitive"] := rfl

/-- The words are written in small letters. -/
theorem toLower_flagWords : ∀ w ∈ flagWords, w.toList.map Char.toLower = w.toList := by
  decide

theorem sameLetters_iff {s w : String} (hw : w ∈ flagWords) :
    SameLetters s w ↔ String.ofList (s.toList.map Char.toLower) = w := by
  rw [SameLetters, toLower_flagWords w hw, ← String.toList_inj, String.toList_ofList]

theorem exists_flagOfWord?_iff {s : String} :
    (∃ b, flagOfWord? s = some b) ↔ ∃ w ∈ flagWords, SameLetters s w := by
  have hwords : (∃ w ∈ flagWords, SameLetters s w) ↔
      String.ofList (s.toList.map Char.toLower) ∈ flagWords := by
    constructor
    · rintro ⟨w, hw, h⟩
      exact (sameLetters_iff hw).mp h ▸ hw
    · intro hw
      exact ⟨_, hw, (sameLetters_iff hw).mpr rfl⟩
  rw [hwords]
  simp only [flagOfWord?]
  split_ifs with htrue hfalse
  · exact iff_of_true ⟨_, rfl⟩ (List.mem_append_left ["false", "no", "n", "0"] htrue)
  · exact iff_of_true ⟨_, rfl⟩ (List.mem_append_right ["true", "yes", "y", "1"] hfalse)
  · refine iff_of_false nofun fun hmem => ?_
    obtain h | h := List.mem_append.mp (show _ ∈ ["true", "yes", "y", "1"] ++ _ from hmem)
    · exact htrue h
    · exact hfalse h

theorem exists_readText_iff {v : Value} : (∃ s, readText v = .ok s) ↔ v.IsWord := by
  rw [← Value.exists_wordText?_iff]
  unfold readText
  cases v.wordText? <;> simp

theorem exists_readFlag_iff {v : Value} : (∃ b, readFlag v = .ok b) ↔ IsFlag v := by
  constructor
  · rintro ⟨b, hb⟩
    cases v with
    | bool b => exact .bool b
    | text s =>
      unfold readFlag at hb
      cases hword : flagOfWord? s with
      | none => simp [hword] at hb
      | some b =>
        obtain ⟨w, hw, h⟩ := exists_flagOfWord?_iff.mp ⟨b, hword⟩
        exact .word hw h
    | _ => cases hb
  · rintro (b | ⟨hw, h⟩)
    · exact ⟨b, rfl⟩
    · obtain ⟨b, hb⟩ := exists_flagOfWord?_iff.mpr ⟨_, hw, h⟩
      exact ⟨b, by simp [readFlag, hb]⟩

theorem exists_readTexts_iff {v : Value} :
    (∃ values, readTexts v = .ok values) ↔
      ∃ items, v = .sequence items ∧ ∀ w ∈ items, w.IsWord := by
  cases v with
  | sequence items =>
    simp only [readTexts, exists_mapM_iff, exists_readText_iff, Value.sequence.injEq,
      exists_eq_left']
  | _ => simp [readTexts]

/-- **An option can be read iff its value is of its type.** -/
theorem exists_read_iff {name : String} {v : Value} : (∃ s, read name v = .ok s) ↔ Fits name v := by
  constructor
  · rintro ⟨s, hs⟩
    obtain ⟨o, rfl⟩ | rfl | ⟨o, rfl⟩ := name_cases hs
    · rw [read_text] at hs
      obtain ⟨x, hx, -⟩ := map_eq_ok.mp hs
      exact .text o (exists_readText_iff.mp ⟨x, hx⟩)
    · rw [read_choices] at hs
      obtain ⟨xs, hxs, -⟩ := map_eq_ok.mp hs
      obtain ⟨items, rfl, hitems⟩ := exists_readTexts_iff.mp ⟨xs, hxs⟩
      exact .choices hitems
    · rw [read_flag] at hs
      obtain ⟨b, hb, -⟩ := map_eq_ok.mp hs
      exact .flag o (exists_readFlag_iff.mp ⟨b, hb⟩)
  · rintro (⟨o, h⟩ | h | ⟨o, h⟩)
    · obtain ⟨x, hx⟩ := exists_readText_iff.mpr h
      exact ⟨.text o x, by rw [read_text, hx]; rfl⟩
    · obtain ⟨xs, hxs⟩ := exists_readTexts_iff.mpr ⟨_, rfl, h⟩
      exact ⟨.choices xs, by rw [read_choices, hxs]; rfl⟩
    · obtain ⟨b, hb⟩ := exists_readFlag_iff.mpr h
      exact ⟨.flag o b, by rw [read_flag, hb]; rfl⟩

/-- A setting has the name that its entry has, if the key has no tag. -/
theorem key_of_ofEntry {e : Value × Value} {s : Setting} (htag : e.1.isTagged = false)
    (h : ofEntry e = .ok s) : e.1 = .text s.name := by
  unfold ofEntry at h
  cases hname : e.1.asText? with
  | none => simp [hname] at h
  | some name =>
    simp only [hname] at h
    rw [name_of_read (mapError_eq_ok.mp h)]
    exact Value.eq_text_of_asText? hname htag

/-- An entry can be read iff its key has the name of an option and its value is of the option's
type. -/
theorem exists_ofEntry_iff {e : Value × Value} (htag : e.1.isTagged = false) :
    (∃ s, ofEntry e = .ok s) ↔ ∃ name, e.1 = .text name ∧ Fits name e.2 := by
  obtain ⟨k, v⟩ := e
  constructor
  · rintro ⟨s, hs⟩
    obtain rfl : k = .text s.name := key_of_ofEntry htag hs
    exact ⟨s.name, rfl, exists_read_iff.mp ⟨s, mapError_eq_ok.mp hs⟩⟩
  · rintro ⟨name, rfl, h⟩
    obtain ⟨s, hs⟩ := exists_read_iff.mpr h
    exact ⟨s, mapError_eq_ok.mpr hs⟩

end Setting

/-! ## Options -/

namespace Options

/-- The grammar of options: nothing, or a mapping of options whose keys have no tag. -/
inductive IsWritten : Value → Prop
  | null : IsWritten .null
  | mapping {entries : Value.Entries}
      (h : ∀ e ∈ entries, ∃ name, e.1 = .text name ∧ Setting.Fits name e.2) :
      IsWritten (.mapping entries)

theorem ofValue_mapping_eq_ok {entries : Value.Entries} {o : Options} :
    ofValue (.mapping entries) = .ok o ↔
      ∃ settings, List.Forall₂ (fun e s => Setting.ofEntry e = .ok s) entries settings ∧
        ofSettings settings = o := by
  rw [ofValue, map_eq_ok]
  simp only [mapM_eq_ok]

/-- **Options can be read iff each of them can.** -/
theorem exists_ofValue_iff {v : Value}
    (htags : ∀ entries, v = .mapping entries → ∀ e ∈ entries, e.1.isTagged = false) :
    (∃ o, ofValue v = .ok o) ↔ IsWritten v := by
  cases v with
  | null => exact iff_of_true ⟨{}, rfl⟩ .null
  | mapping entries =>
    have hentries : (∃ o, ofValue (.mapping entries) = .ok o) ↔
        ∀ e ∈ entries, ∃ s, Setting.ofEntry e = .ok s := by
      rw [← exists_mapM_iff]
      simp only [ofValue, map_eq_ok]
      exact ⟨fun ⟨_, ss, h, _⟩ => ⟨ss, h⟩, fun ⟨ss, h⟩ => ⟨_, ss, h, rfl⟩⟩
    rw [hentries]
    constructor
    · exact fun h => .mapping fun e he =>
        (Setting.exists_ofEntry_iff (htags entries rfl e he)).mp (h e he)
    · rintro ⟨⟩
      rename_i h
      exact fun e he => (Setting.exists_ofEntry_iff (htags entries rfl e he)).mpr (h e he)
  | _ =>
    refine iff_of_false ?_ ?_
    · rintro ⟨o, h⟩
      cases h
    · rintro ⟨⟩

/-- **The order of options does not matter**, if no key has a tag or stands twice. -/
theorem ofValue_perm {xs ys : Value.Entries} (hperm : xs.Perm ys) (hdistinct : xs.Distinct)
    (htags : ∀ e ∈ xs, e.1.isTagged = false) {o : Options} (h : ofValue (.mapping xs) = .ok o) :
    ofValue (.mapping ys) = .ok o := by
  obtain ⟨ss, hss, rfl⟩ := ofValue_mapping_eq_ok.mp h
  obtain ⟨ts, hts, hperm'⟩ := List.perm_comp_forall₂ hperm.symm hss
  have hkeys : xs.map (·.1) = ss.map fun s => Value.text s.name := by
    rw [← List.forall₂_eq_eq_eq, List.forall₂_map_left_iff, List.forall₂_map_right_iff]
    exact List.forall₂_iff_zip.mpr ⟨hss.length_eq, fun hmem =>
      Setting.key_of_ofEntry (htags _ (List.of_mem_zip hmem).1) (List.forall₂_zip hss hmem)⟩
  -- the keys are the names, so no option is named twice
  have hnames : (ss.map Setting.name).Nodup := by
    have hpairwise : (xs.map (·.1)).Pairwise fun a b => b.same a = false :=
      List.pairwise_map.mpr hdistinct
    rw [hkeys, List.pairwise_map] at hpairwise
    refine List.pairwise_map.mpr (hpairwise.imp fun {a b} hab heq => ?_)
    rw [heq, Bool.eq_false_iff] at hab
    exact hab (Value.same_text_iff.mpr rfl)
  rw [ofValue_mapping_eq_ok]
  exact ⟨ts, hts, (ofSettings_perm hperm'.symm hnames).symm⟩

end Options

/-! ## Declarations -/

namespace Declaration

/-- No key of a declaration has a tag, and none of its options. -/
structure Untagged (d : Declaration) : Prop where
  keys : ∀ e ∈ d.entries, e.1.isTagged = false
  optionKeys : ∀ entries, (.text optionsKey, .mapping entries) ∈ d.entries →
    ∀ e ∈ entries, e.1.isTagged = false

/-- The grammar of declarations, with the parts of one: a variable with a scalar, and perhaps
options. -/
structure Forms (d : Declaration) (key : String) (value : Value) (options : Option Value) :
    Prop where
  ne_empty : key ≠ ""
  ne_optionsKey : key ≠ optionsKey
  isScalar : value.IsScalar
  isWritten : ∀ o ∈ options, Options.IsWritten o
  entries : d.entries.Perm ((.text key, value) :: options.toList.map fun o => (.text optionsKey, o))

/-- A declaration is of the grammar. -/
def IsWritten (d : Declaration) : Prop :=
  ∃ key value options, d.Forms key value options

variable {d d' : Declaration} {key : String} {value : Value} {options : Option Value}

/-- What is of the grammar names its variable. -/
theorem Forms.exists_binds (h : d.Forms key value options) : ∃ text, value.scalarText? = some text ∧
    d.Binds key text (.text key, value) (options.map fun o => (.text optionsKey, o)) := by
  obtain ⟨text, htext⟩ := Value.exists_scalarText?_iff.mpr h.isScalar
  refine ⟨text, htext, ⟨rfl, h.ne_empty, h.ne_optionsKey, htext⟩, fun e he => ?_, ?_⟩
  · obtain ⟨o, -, rfl⟩ := Option.map_eq_some_iff.mp he
    rfl
  · rw [Option.toList_map]
    exact h.entries

/-- The options of what is of the grammar can be read. -/
theorem Forms.exists_readOptions (h : d.Forms key value options) :
    ∃ o, d.readOptions = .ok o := by
  obtain ⟨text, -, hbinds⟩ := h.exists_binds
  rw [hbinds.readOptions]
  cases options with
  | none => exact ⟨{}, rfl⟩
  | some o =>
    have htags : ∀ entries, o = .mapping entries → ∀ e ∈ entries, e.1.isTagged = false := by
      rintro entries rfl e he
      cases h.isWritten _ rfl with
      | mapping hentries =>
        obtain ⟨name, hname, -⟩ := hentries e he
        rw [hname]
        rfl
    obtain ⟨options, hoptions⟩ := (Options.exists_ofValue_iff htags).mpr (h.isWritten o rfl)
    exact ⟨options, mapError_eq_ok.mpr hoptions⟩

/-- What can be read and has no tags is of the grammar. -/
theorem isWritten_of_readable (htags : d.Untagged) (h : d.Readable) : d.IsWritten := by
  obtain ⟨⟨⟨key, text⟩, hkey⟩, o, ho⟩ := h
  obtain ⟨⟨k, v⟩, other, hbinds⟩ := keyValue_eq_ok.mp hkey
  obtain ⟨hname, hne, hopts, htext⟩ := hbinds.isVariable
  have hscalar := Value.exists_scalarText?_iff.mp ⟨text, htext⟩
  have hkeys : ∀ e ∈ (k, v) :: other.toList, e.1.isTagged = false := fun e he =>
    htags.keys e (hbinds.entries.mem_iff.mpr he)
  obtain rfl : k = .text key := Value.eq_text_of_asText? hname (hkeys _ List.mem_cons_self)
  have hread := hbinds.readOptions.symm.trans ho
  cases other with
  | none => exact ⟨key, v, none, hne, hopts, hscalar, nofun, hbinds.entries⟩
  | some e =>
    obtain ⟨k, w⟩ := e
    have htag : k.isTagged = false := hkeys (k, w) (List.mem_cons_of_mem _ List.mem_cons_self)
    obtain rfl : k = .text optionsKey :=
      Value.eq_text_of_asText? (isOptionsKey_iff.mp (hbinds.isOptions _ rfl)) htag
    refine ⟨key, v, some w, hne, hopts, hscalar, ?_, hbinds.entries⟩
    rintro _ ⟨⟩
    refine (Options.exists_ofValue_iff ?_).mp ⟨o, mapError_eq_ok.mp hread⟩
    rintro entries rfl
    exact htags.optionKeys entries
      (hbinds.entries.mem_iff.mpr (List.mem_cons_of_mem _ List.mem_cons_self))

/-- **What can be read is what the grammar allows.** -/
theorem readable_iff_isWritten (htags : d.Untagged) : d.Readable ↔ d.IsWritten := by
  constructor
  · exact isWritten_of_readable htags
  · rintro ⟨key, value, options, h⟩
    obtain ⟨text, -, hbinds⟩ := h.exists_binds
    exact ⟨⟨(key, text), keyValue_eq_ok.mpr ⟨_, _, hbinds⟩⟩, h.exists_readOptions⟩

/-! ## Order -/

/-- Two entries are the same, or both are options, which stand in different orders. -/
inductive EntryReordered : Value × Value → Value × Value → Prop
  | same (e : Value × Value) : EntryReordered e e
  | options {xs ys : Value.Entries} (h : xs.Perm ys) :
      EntryReordered (.text optionsKey, .mapping xs) (.text optionsKey, .mapping ys)

/-- The entries of a declaration in another order, and the options among them in another order. -/
def Reordered (d d' : Declaration) : Prop :=
  ∃ entries, d.entries.Perm entries ∧ List.Forall₂ EntryReordered entries d'.entries

/-- No option stands twice in a declaration. -/
def DistinctOptions (d : Declaration) : Prop :=
  ∀ entries, (.text optionsKey, .mapping entries) ∈ d.entries → Value.Entries.Distinct entries

/-- Reordering keeps the variable as it is, and the options up to their order. -/
theorem Binds.reordered {text : String} {v : Value × Value} {other : Option (Value × Value)}
    (h : d.Binds key text v other) (hd : d.Reordered d') :
    ∃ other', d'.Binds key text v other' ∧ Option.Rel EntryReordered other other' := by
  obtain ⟨entries, hperm, hentries⟩ := hd
  obtain ⟨_, hall, hperm'⟩ := List.perm_comp_forall₂ (h.entries.symm.trans hperm) hentries
  cases hall with
  | @cons _ v' _ rest hv hrest =>
    -- only the options may be in another order, and they are not the variable
    obtain rfl : v = v' := by
      cases hv with
      | same => rfl
      | options =>
        exact absurd (Option.some.inj h.isVariable.name).symm h.isVariable.ne_optionsKey
    cases other with
    | none =>
      cases hrest
      exact ⟨none, ⟨h.isVariable, nofun, hperm'.symm⟩, .none⟩
    | some e =>
      obtain _ | ⟨he, ⟨⟩⟩ := hrest
      rename_i e'
      have hkey : e'.1 = e.1 := by
        cases he <;> rfl
      refine ⟨some e', ⟨h.isVariable, ?_, hperm'.symm⟩, .some he⟩
      rintro _ ⟨⟩
      rw [hkey]
      exact h.isOptions e rfl

/-- **The order of entries does not matter** to what is read. -/
theorem read_reordered (htags : d.Untagged) (hdistinct : d.DistinctOptions) (hread : d.Readable)
    (h : d.Reordered d') : d'.keyValue = d.keyValue ∧ d'.readOptions = d.readOptions := by
  obtain ⟨⟨⟨key, text⟩, hkey⟩, o, ho⟩ := hread
  obtain ⟨v, other, hbinds⟩ := keyValue_eq_ok.mp hkey
  obtain ⟨other', hbinds', hother⟩ := hbinds.reordered h
  refine ⟨(keyValue_eq_ok.mpr ⟨v, other', hbinds'⟩).trans hkey.symm, ?_⟩
  rw [hbinds.readOptions] at ho ⊢
  rw [hbinds'.readOptions]
  cases hother with
  | none => rfl
  | @some e e' he =>
    cases he with
    | same => rfl
    | @options xs ys hperm =>
      have hmem : (.text optionsKey, .mapping xs) ∈ d.entries :=
        hbinds.entries.mem_iff.mpr (List.mem_cons_of_mem _ List.mem_cons_self)
      have hxs : Options.ofValue (.mapping xs) = .ok o := mapError_eq_ok.mp ho
      have hys := Options.ofValue_perm hperm (hdistinct xs hmem) (htags.optionKeys xs hmem) hxs
      show (Options.ofValue (.mapping ys)).mapError _ = (Options.ofValue (.mapping xs)).mapError _
      rw [hxs, hys]

/-- **Declarations are read by their grammar.** Let no key of a declaration or of its options have a
tag. Then it names a variable and its options can be read iff it is of the grammar. In that case the
name is that of the variable and the text that of its value; and in whatever order the entries
stand, in the declaration and in its options, what is read is the same. -/
theorem read_by_grammar (htags : d.Untagged) :
    ((∃ p, d.keyValue = .ok p) ∧ (∃ o, d.readOptions = .ok o) ↔ d.IsWritten) ∧
    (∀ key value options, d.Forms key value options →
      ∃ text, value.scalarText? = some text ∧ d.keyValue = .ok (key, text)) ∧
    ∀ d', d.IsWritten → d.DistinctOptions → d.Reordered d' →
      d'.keyValue = d.keyValue ∧ d'.readOptions = d.readOptions := by
  refine ⟨readable_iff_isWritten htags, fun key value options h => ?_,
    fun d' hwritten hdistinct h => ?_⟩
  · obtain ⟨text, htext, hbinds⟩ := h.exists_binds
    exact ⟨text, htext, keyValue_eq_ok.mpr ⟨_, _, hbinds⟩⟩
  · exact read_reordered htags hdistinct ((readable_iff_isWritten htags).mpr hwritten) h

/-- An address, with a word for a flag, a number for a title and choices, and the same written from
its end. -/
theorem read_by_grammar_reversed :
    let settings : Value.Entries :=
      [(.text "is_expand", .text "YES"), (.text "title", .number (.int 5)),
       (.text "value_options", .sequence [.text "$HOST", .bool true])]
    let url : Declaration := ⟨[(.text "URL", .text "$HOST"), (.text "opts", .mapping settings)]⟩
    let reversed : Declaration :=
      ⟨[(.text "opts", .mapping settings.reverse), (.text "URL", .text "$HOST")]⟩
    url.Untagged ∧ url.IsWritten ∧ url.DistinctOptions ∧ url.Reordered reversed ∧
      reversed.keyValue = .ok ("URL", "$HOST") ∧
      reversed.readOptions =
        .ok { title := some "5", choices := ["$HOST", "true"], isExpand := some true } := by
  intro settings url reversed
  have hoptions : ∀ entries, (.text "opts", .mapping entries) ∈ url.entries →
      entries = settings := by
    intro entries h
    obtain h | h := List.mem_pair.mp h
    · exact absurd (Value.text.inj (Prod.mk.inj h).1) (by decide)
    · exact Value.mapping.inj (Prod.mk.inj h).2
  have htags : url.Untagged := by
    refine ⟨?_, fun entries h => ?_⟩
    · simp [url, Value.isTagged]
    · rw [hoptions entries h]
      simp [settings, Value.isTagged]
  have hkey : url.keyValue = .ok ("URL", "$HOST") := rfl
  have hread : url.readOptions =
      .ok { title := some "5", choices := ["$HOST", "true"], isExpand := some true } := rfl
  have hdistinct : url.DistinctOptions := by
    intro entries h
    rw [hoptions entries h]
    have hread : Value.Entries.ofDistinct? settings = some settings := rfl
    exact Value.Entries.distinct_of_ofDistinct? hread
  have hreordered : url.Reordered reversed :=
    ⟨[(.text "opts", .mapping settings), (.text "URL", .text "$HOST")], .swap _ _ _,
      .cons (.options (List.reverse_perm settings).symm) (.cons (.same _) .nil)⟩
  obtain ⟨haccepted, -, horder⟩ := read_by_grammar htags
  have hwritten := haccepted.mp ⟨⟨_, hkey⟩, _, hread⟩
  obtain ⟨hkey', hread'⟩ := horder reversed hwritten hdistinct hreordered
  exact ⟨htags, hwritten, hdistinct, hreordered, hkey'.trans hkey, hread'.trans hread⟩

end Declaration

end Stepwise
