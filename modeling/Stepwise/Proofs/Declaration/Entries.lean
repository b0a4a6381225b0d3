import Mathlib.Data.List.Permutation
import Stepwise.Proofs.Resolution

/-!
# The entries of an accepted declaration

A declaration that names a variable has an entry for it and at most one other, under the key of the
options. In telling the two apart tags are overlooked, but the options are looked up under the key
without a tag. So the options of an accepted declaration are lost where their key has one.

* `Declaration.IsVariable`: an entry that names a variable. `Declaration.Binds`: it stands alone or
  beside the options.
* `Declaration.binding_eq_ok`: **what is accepted**. `Binds.displayKey`, `Binds.readOptions`: the
  name in its messages, and its options.
* `Declaration.options_of_other`: **the options of an accepted declaration** are those of its other
  entry unless a tag hides their key.
-/

namespace Stepwise

/-- Whether a value stands under a tag. -/
def Value.isTagged : Value → Bool
  | .tagged .. => true
  | _ => false

theorem Value.eq_text_of_asText? {v : Value} {s : String} (h : v.asText? = some s)
    (htag : v.isTagged = false) : v = .text s := by
  cases v with
  | text t => rw [Option.some.inj h]
  | tagged tag w => cases htag
  | _ => cases h

namespace Declaration

/-! ## Keys -/

theorem isOptionsKey_iff {k : Value} : isOptionsKey k = true ↔ k.asText? = some optionsKey := by
  unfold isOptionsKey
  rw [decide_eq_true_eq]

theorem isVariableKey_iff {k : Value} :
    isVariableKey k = true ↔ ∃ key, k.asText? = some key ∧ key ≠ optionsKey := by
  unfold isVariableKey isOptionsKey
  cases k.asText? <;> simp

theorem isVariableKey_of_isOptionsKey {k : Value} (h : isOptionsKey k = true) :
    isVariableKey k = false := by
  rw [isVariableKey, h]
  simp

theorem keyName_of_asText? {k : Value} {key : String} (h : k.asText? = some key) :
    keyName k = key := by
  rw [keyName, h]
  rfl

/-- A tag hides the key of the options from a look-up. -/
theorem same_optionsKey {k : Value} (h : isOptionsKey k = true) :
    (Value.text optionsKey).same k = !k.isTagged := by
  rw [Bool.eq_iff_iff, Value.same_text_iff, Bool.not_eq_true']
  constructor
  · rintro rfl
    rfl
  · exact Value.eq_text_of_asText? (isOptionsKey_iff.mp h)

/-! ## Accepted declarations -/

/-- An entry that names a variable and gives it a text. -/
structure IsVariable (e : Value × Value) (key text : String) : Prop where
  name : e.1.asText? = some key
  ne_empty : key ≠ ""
  ne_optionsKey : key ≠ optionsKey
  text : e.2.scalarText? = some text

/-- The entries of a declaration are, in some order, one that names a variable and at most one
other, which has the key of the options. -/
structure Binds (d : Declaration) (key text : String) (v : Value × Value)
    (other : Option (Value × Value)) : Prop where
  isVariable : IsVariable v key text
  isOptions : ∀ e ∈ other, isOptionsKey e.1 = true
  entries : d.entries.Perm (v :: other.toList)

theorem IsVariable.isVariableKey {e : Value × Value} {key text : String}
    (h : IsVariable e key text) :
    isVariableKey e.1 = true :=
  isVariableKey_iff.mpr ⟨key, h.name, h.ne_optionsKey⟩

theorem IsVariable.isOptionsKey {e : Value × Value} {key text : String}
    (h : IsVariable e key text) :
    isOptionsKey e.1 = false :=
  Bool.eq_false_iff.mpr fun hopts =>
    h.ne_optionsKey (Option.some.inj (h.name.symm.trans (isOptionsKey_iff.mp hopts)))

theorem entryBinding_eq_ok {k v : Value} {key text : String} :
    entryBinding k v = .ok (key, text) ↔
      keyName k = key ∧ key ≠ "" ∧ v.scalarText? = some text := by
  unfold entryBinding
  by_cases hempty : keyName k = ""
  · rw [if_pos hempty]
    constructor
    · nofun
    · rintro ⟨rfl, hne, -⟩
      exact absurd hempty hne
  · rw [if_neg hempty]
    cases v.scalarText? with
    | none => simp
    | some s =>
      simp only [Except.ok.injEq, Prod.mk.injEq, Option.some.injEq]
      constructor
      · rintro ⟨rfl, rfl⟩
        exact ⟨rfl, hempty, rfl⟩
      · rintro ⟨rfl, -, rfl⟩
        exact ⟨rfl, rfl⟩

theorem isVariable_of_entryBinding {e : Value × Value} {key text : String}
    (hkey : isVariableKey e.1 = true) (h : entryBinding e.1 e.2 = .ok (key, text)) :
    IsVariable e key text := by
  obtain ⟨name, hname, hne⟩ := isVariableKey_iff.mp hkey
  obtain ⟨rfl, hempty, htext⟩ := entryBinding_eq_ok.mp h
  rw [keyName_of_asText? hname] at hempty
  rw [keyName_of_asText? hname]
  exact ⟨hname, hempty, hne, htext⟩

/-- What stands beside a variable, if anything, is the options. -/
theorem exists_other {entries : Value.Entries} {v : Value × Value} (hv : v ∈ entries)
    (hkey : isOptionsKey v.1 = false) (hmany : ¬ 2 < entries.length)
    (hseveral : 1 < entries.length → ∃ e ∈ entries, isOptionsKey e.1 = true) :
    ∃ other : Option (Value × Value), (∀ e ∈ other, isOptionsKey e.1 = true) ∧
      entries.Perm (v :: other.toList) := by
  match entries, hv, hmany, hseveral with
  | [a], hv, _, _ =>
    obtain rfl := List.mem_singleton.mp hv
    exact ⟨none, nofun, .refl _⟩
  | [a, b], hv, _, hseveral =>
    obtain ⟨o, ho, hopts⟩ := hseveral (Nat.lt_succ_self 1)
    have hne : o ≠ v := by
      rintro rfl
      rw [hkey] at hopts
      cases hopts
    refine ⟨some o, fun e he => Option.mem_some.mp he ▸ hopts, ?_⟩
    obtain rfl | rfl := List.mem_pair.mp hv
    · obtain rfl := (List.mem_pair.mp ho).resolve_left hne
      exact .refl _
    · obtain rfl := (List.mem_pair.mp ho).resolve_right hne
      exact .swap _ _ _
  | _ :: _ :: _ :: rest, _, hmany, _ => exact absurd (by simp) hmany

variable {d : Declaration} {key text : String} {v : Value × Value} {other : Option (Value × Value)}

/-- A declaration with a variable, alone or beside the options, is one of three lists. -/
theorem Binds.entries_cases (h : d.Binds key text v other) :
    (other = none ∧ d.entries = [v]) ∨
    ∃ o, other = some o ∧ isOptionsKey o.1 = true ∧ (d.entries = [v, o] ∨ d.entries = [o, v]) := by
  cases other with
  | none => exact Or.inl ⟨rfl, List.perm_singleton.mp h.entries⟩
  | some o => exact Or.inr ⟨o, rfl, h.isOptions o rfl, List.perm_pair.mp h.entries⟩

/-- **What is accepted**: a variable, alone or beside the options. -/
theorem binding_eq_ok : d.binding = .ok (key, text) ↔ ∃ v other, d.Binds key text v other := by
  constructor
  · intro h
    unfold binding at h
    by_cases hempty : d.entries.isEmpty = true
    · simp [hempty] at h
    by_cases hmany : 2 < d.entries.length
    · simp [hempty, hmany] at h
    rw [if_neg hempty, if_neg hmany] at h
    cases hnone : d.entries.find? fun e => e.1.asText?.isNone with
    | some e => simp [hnone] at h
    | none =>
      cases hlast : (d.entries.filter fun e => isVariableKey e.1).getLast? with
      | none => simp [hnone, hlast] at h
      | some v =>
        simp only [hnone, hlast] at h
        split at h
        · cases h
        · -- a second entry has the key of the options, or there would be several variables
          rename_i hseveral
          obtain ⟨hmem, hkey⟩ := List.mem_filter.mp (List.mem_of_getLast? hlast)
          have hv := isVariable_of_entryBinding hkey h
          obtain ⟨other, hother, hperm⟩ :=
            exists_other hmem hv.isOptionsKey hmany (by simpa using hseveral)
          exact ⟨v, other, hv, hother, hperm⟩
  · rintro ⟨v, other, h⟩
    have hv := h.isVariable
    have hbinding : entryBinding v.1 v.2 = .ok (key, text) :=
      entryBinding_eq_ok.mpr ⟨keyName_of_asText? hv.name, hv.ne_empty, hv.text⟩
    unfold binding
    obtain ⟨-, he⟩ | ⟨o, -, ho, he | he⟩ := h.entries_cases
    · simp [he, hv.name, hv.isVariableKey, hbinding]
    · simp [he, hv.name, hv.isVariableKey, hbinding, ho, isOptionsKey_iff.mp ho,
        isVariableKey_of_isOptionsKey ho]
    · simp [he, hv.name, hv.isVariableKey, hbinding, ho, isOptionsKey_iff.mp ho,
        isVariableKey_of_isOptionsKey ho]

theorem keyValue_eq_ok : d.keyValue = .ok (key, text) ↔ ∃ v other, d.Binds key text v other := by
  rw [← binding_eq_ok]
  exact mapError_eq_ok

/-- An accepted declaration is called by its variable. -/
theorem Binds.displayKey (h : d.Binds key text v other) : d.displayKey = key := by
  have hv := h.isVariable
  have hfind : d.entries.find? (fun e => isVariableKey e.1) = some v := by
    obtain ⟨-, he⟩ | ⟨o, -, ho, he | he⟩ := h.entries_cases
    · simp [he, hv.isVariableKey]
    · simp [he, hv.isVariableKey]
    · simp [he, hv.isVariableKey, isVariableKey_of_isOptionsKey ho]
  unfold Declaration.displayKey
  rw [hfind]
  exact keyName_of_asText? hv.name

/-! ## The options of an accepted declaration -/

/-- What reading the options of a variable gives. -/
def parsed (key : String) (value : Value) : Except Error Options :=
  (Options.ofValue value).mapError fun e => .invalidOption key e.1 e.2

theorem IsVariable.same_optionsKey {e : Value × Value} (h : IsVariable e key text) :
    (Value.text optionsKey).same e.1 = false := by
  refine Bool.eq_false_iff.mpr fun hsame => h.ne_optionsKey ?_
  have hname := h.name
  rw [Value.same_text_iff.mp hsame] at hname
  exact (Option.some.inj hname).symm

/-- The options of an accepted declaration are read under the key without a tag. -/
theorem Binds.readOptions (h : d.Binds key text v other) :
    d.readOptions =
      other.elim (.ok {}) fun o => if o.1.isTagged then .ok {} else parsed key o.2 := by
  have hv := h.isVariable.same_optionsKey
  unfold Declaration.readOptions options Value.Entries.get? parsed
  rw [h.displayKey]
  obtain ⟨rfl, he⟩ | ⟨o, rfl, ho, he⟩ := h.entries_cases
  · simp [he, hv, Except.mapError]
  · have hsame := Declaration.same_optionsKey ho
    cases htag : o.1.isTagged <;> obtain he | he := he <;>
      simp [he, hv, hsame, htag, Except.mapError]

/-- **The options of an accepted declaration with two entries.** One entry is the variable. The
other has the key of the options, and unless the key has a tag, what is read is what is written
there: the options, or the error. A tag on the key hides the entry. Then the declaration is taken to
have no options, and it sets its variable to its text whatever the entry says; so the entry is
ignored, unless it says nothing. -/
theorem options_of_other (htwo : d.entries.length = 2) (h : d.keyValue = .ok (key, text)) :
    ∃ v o, d.entries.Perm [v, o] ∧ IsVariable v key text ∧ isOptionsKey o.1 = true ∧
      (o.1.isTagged = false → d.readOptions = parsed key o.2) ∧
      (o.1.isTagged = true →
        d.readOptions = .ok {} ∧ ∀ env, d.command env = .ok (.set ⟨key, text, false⟩)) ∧
      (d.readOptions = parsed key o.2 ↔ o.1.isTagged = false ∨ parsed key o.2 = .ok {}) := by
  obtain ⟨v, other, hbinds⟩ := keyValue_eq_ok.mp h
  obtain ⟨o, rfl⟩ : ∃ o, other = some o := by
    have hlength := hbinds.entries.length_eq
    cases other with
    | none => simp [htwo] at hlength
    | some o => exact ⟨o, rfl⟩
  have hread := hbinds.readOptions
  refine ⟨v, o, hbinds.entries, hbinds.isVariable, hbinds.isOptions o rfl, ?_⟩
  cases htag : o.1.isTagged with
  | false =>
    simp only [Option.elim, htag, Bool.false_eq_true, if_false] at hread
    exact ⟨fun _ => hread, nofun, iff_of_true hread (Or.inl rfl)⟩
  | true =>
    simp only [Option.elim, htag, if_true] at hread
    refine ⟨nofun, fun _ => ⟨hread, fun env => ?_⟩, ?_⟩
    · exact command_eq_ok.mpr ⟨key, text, {}, h, hread, rfl⟩
    · rw [hread]
      simp [eq_comm]

/-- The options of a token stand before it. -/
theorem options_of_other_token :
    let options : Value := .mapping [(.text "is_sensitive", .bool true)]
    let token : Declaration := ⟨[(.text "opts", options), (.text "TOKEN", .text "s3cret")]⟩
    token.entries.length = 2 ∧ token.keyValue = .ok ("TOKEN", "s3cret") ∧
      token.readOptions = .ok { isSensitive := some true } := by
  intro options token
  have hkey : token.keyValue = .ok ("TOKEN", "s3cret") := rfl
  obtain ⟨v, o, hentries, hv, -, hread, -⟩ := options_of_other (d := token) rfl hkey
  obtain ho : o = (.text "opts", options) := by
    obtain h | h := List.perm_pair.mp hentries
    · injection h with hfirst _
      have hname := hv.name
      rw [← hfirst] at hname
      exact absurd (Option.some.inj hname) (by decide)
    · injection h with hfirst _
      exact hfirst.symm
  subst ho
  exact ⟨rfl, hkey, hread rfl⟩

/-- **A tag on their key hides the options** of an accepted declaration: its token is not
sensitive. -/
theorem tagged_options_ignored :
    let options : Value := .mapping [(.text "is_sensitive", .bool true)]
    let token : Declaration :=
      ⟨[(.text "TOKEN", .text "s3cret"), (.tagged "!t" (.text "opts"), options)]⟩
    token.entries.length = 2 ∧ token.keyValue = .ok ("TOKEN", "s3cret") ∧
      parsed "TOKEN" options = .ok { isSensitive := some true } ∧ token.readOptions = .ok {} ∧
      ∀ env, token.command env = .ok (.set ⟨"TOKEN", "s3cret", false⟩) := by
  intro options token
  have hkey : token.keyValue = .ok ("TOKEN", "s3cret") := rfl
  have hread : token.readOptions = .ok {} := rfl
  exact ⟨rfl, hkey, rfl, hread, fun env => command_eq_ok.mpr ⟨_, _, {}, hkey, hread, rfl⟩⟩

end Declaration

end Stepwise
