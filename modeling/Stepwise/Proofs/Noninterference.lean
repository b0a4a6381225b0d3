import Stepwise.Commands.Envs
import Stepwise.Proofs.Influence

/-!
# Sensitive values stay where they are

Two resolutions that begin alike, up to the values of sensitive variables and the texts of
declarations with the option `is_sensitive`, go on alike. Nobody who sees only what is not sensitive
can tell them apart, neither by an error nor by what the command `envs` shows.

* `Variable.Alike`, `Environment.Alike`, `Command.Alike`: what differs is sensitive.
* `Declaration.Alike`: what differs is the scalar that a sensitive declaration sets. Where it skips
  an empty value, the two scalars are empty together.
* `SameOutcome`: two runs fail with the same error or succeed with results in a relation.

Results:
* `Declaration.command_alike`: **alike declarations do alike things** in alike environments.
* `Resolution.continueFrom_alike`: so do lists of them.
* `Resolution.resolve_noninterference`: **no sensitive value reaches what is not sensitive**.
-/

namespace Stepwise

/-! ## Lists in step -/

section Lists

variable {α β : Type} {r : α → β → Prop}

/-- Related options are missing together, or hold related elements. -/
theorem eq_none_or_eq_some_of_rel {a : Option α} {b : Option β} (h : Option.Rel r a b) :
    (a = none ∧ b = none) ∨ ∃ x y, a = some x ∧ b = some y ∧ r x y := by
  cases h with
  | none => exact Or.inl ⟨rfl, rfl⟩
  | some hxy => exact Or.inr ⟨_, _, rfl, rfl, hxy⟩

/-- Lists that are related element by element: the first elements that pass a test are related, if
the test does not tell related elements apart. -/
theorem rel_find? {p : α → Bool} {q : β → Bool} (hpq : ∀ a b, r a b → p a = q b) :
    ∀ {xs : List α} {ys : List β}, List.Forall₂ r xs ys → Option.Rel r (xs.find? p) (ys.find? q)
  | _, _, .nil => .none
  | x :: _, y :: _, .cons hxy h => by
    rw [List.find?_cons, List.find?_cons, hpq x y hxy]
    cases q y with
    | true => exact .some hxy
    | false => exact rel_find? hpq h

/-- The last elements of such lists are related. -/
theorem rel_getLast? : ∀ {xs : List α} {ys : List β},
    List.Forall₂ r xs ys → Option.Rel r xs.getLast? ys.getLast?
  | _, _, .nil => .none
  | _ :: xs, _ :: ys, .cons hxy h => by
    rw [List.getLast?_cons, List.getLast?_cons]
    obtain ⟨hx, hy⟩ | ⟨a, b, hx, hy, hab⟩ := eq_none_or_eq_some_of_rel (rel_getLast? h)
    · rw [hx, hy]
      exact .some hxy
    · rw [hx, hy]
      exact .some hab

end Lists

/-! ## Outcomes -/

/-- Two runs end with the same error, or with results in a relation. -/
inductive SameOutcome {ε α : Type} (r : α → α → Prop) : Except ε α → Except ε α → Prop
  | error (e : ε) : SameOutcome r (.error e) (.error e)
  | ok {a b : α} (h : r a b) : SameOutcome r (.ok a) (.ok b)

namespace SameOutcome

variable {ε δ α : Type} {r : α → α → Prop} {x y : Except ε α}

theorem refl (hr : ∀ a, r a a) (x : Except ε α) : SameOutcome r x x := by
  cases x with
  | error e => exact .error e
  | ok a => exact .ok (hr a)

theorem mapError (h : SameOutcome r x y) (f : ε → δ) :
    SameOutcome r (x.mapError f) (y.mapError f) := by
  cases h with
  | error e => exact .error (f e)
  | ok h => exact .ok h

theorem eq_error_or_eq_ok (h : SameOutcome r x y) :
    (∃ e, x = .error e ∧ y = .error e) ∨ ∃ a b, x = .ok a ∧ y = .ok b ∧ r a b := by
  cases h with
  | error e => exact Or.inl ⟨e, rfl, rfl⟩
  | ok h => exact Or.inr ⟨_, _, rfl, rfl, h⟩

end SameOutcome

/-! ## What differs is sensitive -/

/-- Variables that differ at most in a sensitive value. -/
structure Variable.Alike (v w : Variable) : Prop where
  key : v.key = w.key
  isSensitive : v.isSensitive = w.isSensitive
  value : v.isSensitive = false → v.value = w.value

theorem Variable.Alike.refl (v : Variable) : v.Alike v := ⟨rfl, rfl, fun _ => rfl⟩

theorem Variable.Alike.eq {v w : Variable} (h : v.Alike w) (hv : v.isSensitive = false) :
    v = w := by
  cases v
  cases w
  rw [Variable.mk.injEq]
  exact ⟨h.key, h.value hv, h.isSensitive⟩

/-- Environments with the same names, whose variables differ at most in sensitive values. -/
def Environment.Alike (e f : Environment) : Prop :=
  ∀ key, Option.Rel Variable.Alike (e.get? key) (f.get? key)

/-- Commands of one kind, about one variable, that differ at most in a sensitive value. -/
inductive Command.Alike : Command → Command → Prop
  | set {v w : Variable} (h : v.Alike w) : Alike (.set v) (.set w)
  | unset (key : String) : Alike (.unset key) (.unset key)
  | skip (key : String) : Alike (.skip key) (.skip key)

namespace Environment

variable {e f : Environment}

theorem alike_empty : Alike .empty .empty := fun _ => .none

theorem Alike.insert (h : e.Alike f) {v w : Variable} (hvw : v.Alike w) :
    (e.insert v).Alike (f.insert w) := by
  intro key
  rw [get?_insert, get?_insert, ← hvw.key]
  split
  · exact .some hvw
  · exact h key

theorem Alike.erase (h : e.Alike f) (key : String) : (e.erase key).Alike (f.erase key) := by
  intro k
  rw [get?_erase, get?_erase]
  split
  · exact .none
  · exact h k

/-- Alike commands keep environments alike. -/
theorem Alike.apply (h : e.Alike f) {c c' : Command} (hc : c.Alike c') :
    (c.apply e).Alike (c'.apply f) := by
  cases hc with
  | set hvw => exact h.insert hvw
  | unset key => exact h.erase key
  | skip key => exact h

/-- A variable that is not sensitive is in both environments or in neither. -/
theorem Alike.get?_iff (h : e.Alike f) (key : String) {v : Variable} (hv : v.isSensitive = false) :
    e.get? key = some v ↔ f.get? key = some v := by
  obtain ⟨he, hf⟩ | ⟨u, w, he, hf, huw⟩ := eq_none_or_eq_some_of_rel (h key)
  · rw [he, hf]
  · rw [he, hf, Option.some.injEq, Option.some.injEq]
    constructor
    · rintro rfl
      exact (huw.eq hv).symm
    · rintro rfl
      exact huw.eq (huw.isSensitive.trans hv)

/-- A text refers to sensitive variables of both environments or of neither. -/
theorem Alike.refersToSensitive (h : e.Alike f) (text : String) :
    Declaration.refersToSensitive e text = Declaration.refersToSensitive f text := by
  unfold Declaration.refersToSensitive
  congr 1
  funext name
  obtain ⟨he, hf⟩ | ⟨v, w, he, hf, hvw⟩ := eq_none_or_eq_some_of_rel (h name)
  · rw [he, hf]
  · rw [he, hf]
    exact hvw.isSensitive

/-- A name that is not that of a sensitive variable stands for one value. -/
theorem Alike.lookUp (h : e.Alike f) {name : String}
    (hname : (e.get? name).any (·.isSensitive) = false) :
    Declaration.lookUp e name = Declaration.lookUp f name := by
  unfold Declaration.lookUp value?
  obtain ⟨he, hf⟩ | ⟨v, w, he, hf, hvw⟩ := eq_none_or_eq_some_of_rel (h name)
  · rw [he, hf]
  · rw [he] at hname
    rw [he, hf]
    exact hvw.value hname

end Environment

/-! ## Declarations that differ in a sensitive scalar -/

namespace Declaration

/-- Names and texts of declarations: one name, and texts that are empty together if an empty one is
skipped. -/
structure BindingAlike (skips : Bool) (p q : String × String) : Prop where
  key : p.1 = q.1
  text : skips = true → (p.2 = "" ↔ q.2 = "")

/-- Entries of a mapping that are the same, or that give one variable two scalars. -/
inductive EntryAlike (skips : Bool) : Value × Value → Value × Value → Prop
  | refl (e : Value × Value) : EntryAlike skips e e
  | scalar {key value value' : Value} {text text' : String} (hkey : isVariableKey key = true)
      (hvalue : value.scalarText? = some text) (hvalue' : value'.scalarText? = some text')
      (hempty : skips = true → (text = "" ↔ text' = "")) :
      EntryAlike skips (key, value) (key, value')

/-- Declarations that are the same, or that differ in the scalar of a variable and are sensitive, if
their options can be read at all. -/
inductive Alike : Declaration → Declaration → Prop
  | refl (d : Declaration) : Alike d d
  | sensitive {d d' : Declaration} {skips : Bool}
      (hoptions : ∀ o, d.options = .ok o → o.sensitive = true ∧ o.skipsIfEmpty = skips)
      (h : List.Forall₂ (EntryAlike skips) d.entries d'.entries) : Alike d d'

section Entries

variable {skips : Bool} {a b : Value × Value} {d d' : Declaration}

theorem EntryAlike.key (h : EntryAlike skips a b) : a.1 = b.1 := by
  cases h <;> rfl

/-- An entry that is not a variable's is the same in both. -/
theorem EntryAlike.eq (h : EntryAlike skips a b) (ha : isVariableKey a.1 = false) : a = b := by
  cases h with
  | refl => rfl
  | scalar hkey => exact absurd hkey (by simp [ha])

theorem EntryAlike.binding (h : EntryAlike skips a b) :
    SameOutcome (BindingAlike skips) (entryBinding a.1 a.2) (entryBinding b.1 b.2) := by
  cases h with
  | refl => exact .refl (fun _ => ⟨rfl, fun _ => Iff.rfl⟩) _
  | @scalar key value value' text text' hkey hvalue hvalue' hempty =>
    unfold entryBinding
    rw [hvalue, hvalue']
    by_cases hname : keyName key = ""
    · rw [if_pos hname, if_pos hname]
      exact .error _
    · rw [if_neg hname, if_neg hname]
      exact .ok ⟨rfl, hempty⟩

variable (h : List.Forall₂ (EntryAlike skips) d.entries d'.entries)

include h

theorem keys_alike : d.entries.map Prod.fst = d'.entries.map Prod.fst := by
  rw [← List.forall₂_eq_eq_eq, List.forall₂_map_left_iff, List.forall₂_map_right_iff]
  exact h.imp fun _ _ hab => hab.key

theorem sortedKeys_alike : d.sortedKeys = d'.sortedKeys := by
  have hnames := congrArg (List.map keyName) (keys_alike h)
  rw [List.map_map, List.map_map] at hnames
  unfold sortedKeys
  exact congrArg (List.mergeSort · _) hnames

/-- A message calls both by one name. -/
theorem displayKey_alike : d.displayKey = d'.displayKey := by
  have hfind := rel_find? (p := fun e => isVariableKey e.1) (q := fun e => isVariableKey e.1)
    (fun a b hab => by rw [hab.key]) h
  unfold displayKey
  rw [sortedKeys_alike h]
  obtain ⟨ha, hb⟩ | ⟨a, b, ha, hb, hab⟩ := eq_none_or_eq_some_of_rel hfind
  · rw [ha, hb]
  · simp only [ha, hb, hab.key]

/-- Both have the same options. -/
theorem options_alike : d.options = d'.options := by
  have hfind := rel_find? (p := fun e => (Value.text optionsKey).same e.1)
    (q := fun e => (Value.text optionsKey).same e.1) (fun a b hab => by rw [hab.key]) h
  unfold options Value.Entries.get?
  obtain ⟨ha, hb⟩ | ⟨a, b, ha, hb, hab⟩ := eq_none_or_eq_some_of_rel hfind
  · rw [ha, hb]
  · have hsame : (Value.text optionsKey).same a.1 = true := by simpa using List.find?_some ha
    have hkey : isVariableKey a.1 = false := by
      rw [Value.same_text_iff.mp hsame]
      decide
    rw [ha, hb, hab.eq hkey]

/-- Both have the same fault, or the same name and texts that are empty together. -/
theorem binding_alike : SameOutcome (BindingAlike skips) d.binding d'.binding := by
  have hempty : d.entries.isEmpty = d'.entries.isEmpty := by
    rw [Bool.eq_iff_iff, List.isEmpty_iff_length_eq_zero, List.isEmpty_iff_length_eq_zero,
      h.length_eq]
  have hkey := rel_find? (p := fun e => e.1.asText?.isNone) (q := fun e => e.1.asText?.isNone)
    (fun a b hab => by rw [hab.key]) h
  have hvariables : List.Forall₂ (EntryAlike skips)
      (d.entries.filter fun e => isVariableKey e.1)
        (d'.entries.filter fun e => isVariableKey e.1) :=
    List.rel_filter (fun a b hab => by simp only [hab.key]) h
  have hvariable := rel_getLast? hvariables
  have hoptions : d.entries.any (fun e => isOptionsKey e.1) =
      d'.entries.any (fun e => isOptionsKey e.1) := by
    have hany := congrArg (List.any · isOptionsKey) (keys_alike h)
    simpa only [List.any_map, Function.comp_def] using hany
  unfold binding
  rw [hempty, h.length_eq, sortedKeys_alike h, hoptions]
  by_cases hnone : d'.entries.isEmpty = true
  · rw [if_pos hnone, if_pos hnone]
    exact .error _
  by_cases hmany : 2 < d'.entries.length
  · rw [if_neg hnone, if_neg hnone, if_pos hmany, if_pos hmany]
    exact .error _
  rw [if_neg hnone, if_neg hnone, if_neg hmany, if_neg hmany]
  obtain ⟨ha, hb⟩ | ⟨a, b, ha, hb, hab⟩ := eq_none_or_eq_some_of_rel hkey
  · rw [ha, hb]
    obtain ⟨hv, hw⟩ | ⟨v, w, hv, hw, hvw⟩ := eq_none_or_eq_some_of_rel hvariable
    · rw [hv, hw]
      exact .error _
    · simp only [hv, hw]
      split_ifs
      · exact .error _
      · exact hvw.binding
  · simp only [ha, hb, hab.key]
    exact .error _

theorem keyValue_alike : SameOutcome (BindingAlike skips) d.keyValue d'.keyValue := by
  have hmalformed : d.malformed = d'.malformed := by
    unfold malformed
    rw [displayKey_alike h]
  unfold keyValue
  rw [hmalformed]
  exact (binding_alike h).mapError _

theorem readOptions_alike : d.readOptions = d'.readOptions := by
  unfold readOptions
  rw [options_alike h, displayKey_alike h]

end Entries

/-! ## One declaration -/

/-- A text is expanded to one value unless it refers to a sensitive variable. -/
theorem variableOf_alike {e f : Environment} (he : e.Alike f) (o : Options) (key text : String) :
    (variableOf e o key text).Alike (variableOf f o key text) := by
  unfold variableOf
  split_ifs
  · refine ⟨rfl, by rw [he.refersToSensitive], fun hnot => ?_⟩
    have hrefers : refersToSensitive e text = false := (Bool.or_eq_false_iff.mp hnot).2
    refine Expansion.expand_congr fun name hname => he.lookUp ?_
    exact Bool.eq_false_iff.mpr (List.any_eq_false.mp hrefers name hname)
  · exact .refl _

theorem commandOf_alike {e f : Environment} (he : e.Alike f) (o : Options) (key text : String) :
    (commandOf e o key text).Alike (commandOf f o key text) := by
  unfold commandOf
  split_ifs
  · exact .unset key
  · exact .skip key
  · exact .set (variableOf_alike he o key text)

/-- A declared sensitive variable is sensitive, whatever its value is expanded from. -/
theorem variableOf_isSensitive {o : Options} (ho : o.sensitive = true) (env : Environment)
    (key text : String) : (variableOf env o key text).isSensitive = true := by
  unfold variableOf
  split_ifs
  · rw [ho, Bool.true_or]
  · exact ho

/-- Two texts of a sensitive declaration make alike commands. -/
theorem commandOf_alike_of_sensitive {o : Options} (ho : o.sensitive = true) (e f : Environment)
    {p q : String × String} (h : BindingAlike o.skipsIfEmpty p q) :
    (commandOf e o p.1 p.2).Alike (commandOf f o q.1 q.2) := by
  have hskip : (o.skipsIfEmpty && decide (p.2 = "")) = (o.skipsIfEmpty && decide (q.2 = "")) := by
    cases hskips : o.skipsIfEmpty with
    | false => rfl
    | true => rw [decide_eq_decide.mpr (h.text hskips)]
  unfold commandOf
  rw [hskip, h.key]
  split_ifs
  · exact .unset q.1
  · exact .skip q.1
  · refine .set ⟨by rw [variableOf_key, variableOf_key], ?_, fun hnot => ?_⟩
    · rw [variableOf_isSensitive ho, variableOf_isSensitive ho]
    · exact absurd hnot (by simp [variableOf_isSensitive ho])

/-- **Alike declarations do alike things** in alike environments. -/
theorem command_alike {d d' : Declaration} (hd : d.Alike d') {e f : Environment} (he : e.Alike f) :
    SameOutcome Command.Alike (d.command e) (d'.command f) := by
  cases hd with
  | refl =>
    unfold command
    cases d.keyValue with
    | error fault => exact .error fault
    | ok p =>
      cases d.readOptions with
      | error fault => exact .error fault
      | ok o => exact .ok (commandOf_alike he o p.1 p.2)
  | sensitive hoptions h =>
    unfold command
    rw [← readOptions_alike h]
    obtain ⟨fault, hp, hq⟩ | ⟨p, q, hp, hq, hpq⟩ := (keyValue_alike h).eq_error_or_eq_ok
    · rw [hp, hq]
      exact .error fault
    · rw [hp, hq]
      unfold readOptions
      cases ho : d.options with
      | error fault => exact .error _
      | ok o =>
        obtain ⟨hsensitive, rfl⟩ := hoptions o ho
        exact .ok (commandOf_alike_of_sensitive hsensitive e f hpq)

end Declaration

/-! ## Lists of declarations -/

/-- Resolutions whose commands and environments are alike. -/
structure Resolution.Alike (r r' : Resolution) : Prop where
  history : List.Forall₂ Command.Alike r.history r'.history
  result : r.result.Alike r'.result
  added : r.added.Alike r'.added

/-- The line of a command shows no sensitive value. -/
theorem Command.Alike.line {c c' : Command} (h : c.Alike c') (secrets : SecretSet) :
    c.line secrets = c'.line secrets := by
  cases h with
  | @set v w hvw =>
    unfold Command.line
    cases hsensitive : v.isSensitive with
    | true => simp only [← hvw.isSensitive, hsensitive, if_true, hvw.key]
    | false => rw [← hvw.eq hsensitive]
  | unset key => rfl
  | skip key => rfl

namespace Resolution

/-- **Alike lists in alike environments** fail with the same error or resolve alike. -/
theorem continueFrom_alike {ds ds' : List Declaration} (hds : List.Forall₂ Declaration.Alike ds ds')
    {e f added added' : Environment} (he : e.Alike f) (hadded : added.Alike added') (done : Nat) :
    SameOutcome Alike (continueFrom done e added ds) (continueFrom done f added' ds') := by
  induction hds generalizing e f added added' done with
  | nil => exact .ok ⟨.nil, he, hadded⟩
  | cons hd _ ih =>
    rw [continueFrom, continueFrom]
    obtain ⟨fault, hx, hy⟩ | ⟨c, c', hx, hy, hc⟩ :=
      (Declaration.command_alike hd he).eq_error_or_eq_ok
    · rw [hx, hy]
      exact .error _
    · simp only [hx, hy]
      obtain ⟨fault, hr, hr'⟩ | ⟨r, r', hr, hr', h⟩ :=
        (ih (he.apply hc) (hadded.apply hc) (done + 1)).eq_error_or_eq_ok
      · rw [hr, hr']
        exact .error fault
      · rw [hr, hr']
        exact .ok ⟨.cons hc h.history, h.result, h.added⟩

/-- **No sensitive value reaches what is not sensitive.** Let two environments have the same names
and sensitive variables and the same values elsewhere, and let two lists of declarations differ only
in scalars that sensitive declarations set, or declarations with options that cannot be read. Then
both lists fail with the same error, or both resolve. In that case the commands agree one by one in
kind, name, sensitivity and values that are not sensitive, so do the results, and the command `envs`
shows the same lines. -/
theorem resolve_noninterference {source source' : Environment} {ds ds' : List Declaration}
    (hsource : source.Alike source') (hds : List.Forall₂ Declaration.Alike ds ds') :
    (∃ e, resolve ds source = .error e ∧ resolve ds' source' = .error e) ∨
    ∃ r r', resolve ds source = .ok r ∧ resolve ds' source' = .ok r' ∧
      List.Forall₂ Command.Alike r.history r'.history ∧
      r.result.Alike r'.result ∧
      (∀ key v, v.isSensitive = false →
        (r.result.get? key = some v ↔ r'.result.get? key = some v)) ∧
      ∀ secrets : SecretSet,
        r.history.map (Command.line secrets) = r'.history.map (Command.line secrets) := by
  have houtcome := continueFrom_alike hds hsource Environment.alike_empty 0
  obtain hfails | ⟨r, r', hr, hr', h⟩ := houtcome.eq_error_or_eq_ok
  · exact Or.inl hfails
  · refine Or.inr ⟨r, r', hr, hr', h.history, h.result, fun key v => h.result.get?_iff key,
      fun secrets => ?_⟩
    rw [← List.forall₂_eq_eq_eq, List.forall₂_map_left_iff, List.forall₂_map_right_iff]
    exact h.history.imp fun _ _ hc => hc.line secrets

/-- Two tokens and two keys: a header that is expanded from them is hidden, and an address that is
not is the same. -/
theorem resolve_noninterference_header :
    let source (token : String) : Environment :=
      .ofList [⟨"HOST", "example.com", false⟩, ⟨"TOKEN", token, true⟩]
    let key (text : String) : Declaration :=
      (Declaration.plain "KEY" text).withOptions
        { skipIfEmpty := some true, isSensitive := some true }
    let declarations (text : String) : List Declaration :=
      [key text, .expanded "HEADER" "Bearer $TOKEN$KEY", .expanded "URL" "https://$HOST/api",
       .removal "KEY"]
    (source "left").Alike (source "right") ∧
    List.Forall₂ Declaration.Alike (declarations "1") (declarations "2") ∧
    ∃ r r', resolve (declarations "1") (source "left") = .ok r ∧
      resolve (declarations "2") (source "right") = .ok r' ∧
      r.result.value? "HEADER" = some "Bearer left1" ∧
      r'.result.get? "URL" = some ⟨"URL", "https://example.com/api", false⟩ ∧
      r'.history.map (Command.line {}) =
        ["set KEY=[REDACTED]", "set HEADER=[REDACTED]", "set URL=https://example.com/api",
         "unset KEY"] := by
  intro source key declarations
  have hsource : (source "left").Alike (source "right") :=
    (Environment.alike_empty.insert (.refl _)).insert ⟨rfl, rfl, nofun⟩
  have hoptions : ∀ o, (key "1").options = .ok o → o.sensitive = true ∧ o.skipsIfEmpty = true := by
    intro o ho
    obtain rfl := Except.ok.inj ho
    exact ⟨rfl, rfl⟩
  have hkey : (key "1").Alike (key "2") :=
    .sensitive hoptions (.cons (.scalar rfl rfl rfl fun _ => by decide) (.cons (.refl _) .nil))
  have hds : List.Forall₂ Declaration.Alike (declarations "1") (declarations "2") :=
    .cons hkey (.cons (.refl _) (.cons (.refl _) (.cons (.refl _) .nil)))
  refine ⟨hsource, hds, ?_⟩
  have hrun : (resolve (declarations "1") (source "left")).toOption.map (fun r =>
      (r.result.value? "HEADER", r.result.get? "URL", r.history.map (Command.line {}))) =
      some (some "Bearer left1", some ⟨"URL", "https://example.com/api", false⟩,
        ["set KEY=[REDACTED]", "set HEADER=[REDACTED]", "set URL=https://example.com/api",
         "unset KEY"]) := by
    decide +kernel
  obtain ⟨r, hr, hshown⟩ := Option.map_eq_some_iff.mp hrun
  obtain ⟨hheader, hrest⟩ := Prod.mk.inj hshown
  obtain ⟨hurl, hlines⟩ := Prod.mk.inj hrest
  obtain ⟨e, herror, -⟩ | ⟨r₁, r₂, h₁, h₂, -, -, hplain, hsame⟩ :=
    resolve_noninterference hsource hds
  · exact absurd (herror.symm.trans (eq_ok_of_toOption hr)) nofun
  · obtain rfl : r = r₁ := Except.ok.inj ((eq_ok_of_toOption hr).symm.trans h₁)
    exact ⟨r, r₂, h₁, h₂, hheader, (hplain "URL" _ rfl).mp hurl, (hsame {}).symm.trans hlines⟩

end Resolution

end Stepwise
