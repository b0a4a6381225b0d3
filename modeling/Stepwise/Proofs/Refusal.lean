import Stepwise.Proofs.Resolution

/-!
# What stops a resolution

Whether a declaration can be carried out, and as what kind of command, is written in the
declaration. The environment that it is resolved on says only which value is set. So a list of
declarations stops at the same place with the same error wherever it is resolved.

* `Declaration.Refused`: a declaration cannot be read, for its entries or else for its options.
* `Declaration.command_eq_error`: **a declaration fails for what it says**, in any environment.
* `Command.kind`, `Declaration.kindOf`: what a command does, and what a declaration says of that.
* `Resolution.continueFrom_eq_error`: **the first declaration that is refused stops a list**.
* `Resolution.agree_of_eq_ok`: two resolutions of one list make commands of the same kinds and keys.
* `Resolution.failure_by_declarations`: all of this together.
-/

namespace Stepwise

/-! ## Errors -/

/-- A report with the place of a declaration before its message. -/
def Report.atPlace (place : Nat) : Report → Report
  | .malformedDeclaration key message =>
    .malformedDeclaration key ("declaration #" ++ toString place ++ ": " ++ message)
  | r => r

namespace Declaration

/-- A declaration is refused: for its entries, or for its options if the entries can be read. -/
inductive Refused (d : Declaration) : Error → Prop
  | entries {e : Error} (h : d.keyValue = .error e) : d.Refused e
  | options {p : String × String} {e : Error} (hp : d.keyValue = .ok p)
      (h : d.readOptions = .error e) : d.Refused e

section

variable {d : Declaration} {e : Error}

theorem keyValue_eq_error (h : d.keyValue = .error e) :
    ∃ fault, e = .malformed d.displayKey none fault := by
  obtain ⟨fault, -, rfl⟩ := mapError_eq_error.mp h
  exact ⟨fault, rfl⟩

theorem readOptions_eq_error (h : d.readOptions = .error e) :
    ∃ option fault, e = .invalidOption d.displayKey option fault := by
  obtain ⟨⟨option, fault⟩, -, rfl⟩ := mapError_eq_error.mp h
  exact ⟨option, fault, rfl⟩

/-- Only the message of a malformed declaration tells the place. -/
theorem Refused.report_atPlace (h : d.Refused e) (place : Nat) (describe : Yaml.Fault → String) :
    (e.atPlace place).report describe = (e.report describe).atPlace place := by
  cases h with
  | entries h =>
    obtain ⟨fault, rfl⟩ := keyValue_eq_error h
    rfl
  | options _ h =>
    obtain ⟨option, fault, rfl⟩ := readOptions_eq_error h
    rfl

theorem not_readable_iff :
    ¬ d.Readable ↔ (∃ e, d.keyValue = .error e) ∨ ∃ e, d.readOptions = .error e := by
  unfold Readable
  cases d.keyValue <;> cases d.readOptions <;> simp

/-- **A declaration fails for what it says**, in any environment. -/
theorem command_eq_error {env : Environment} : d.command env = .error e ↔ d.Refused e := by
  unfold command
  constructor
  · intro h
    cases hk : d.keyValue with
    | error own =>
      rw [hk] at h
      obtain rfl := Except.error.inj h
      exact .entries hk
    | ok p =>
      cases ho : d.readOptions with
      | error own =>
        rw [hk, ho] at h
        obtain rfl := Except.error.inj h
        exact .options hk ho
      | ok o =>
        rw [hk, ho] at h
        cases h
  · intro h
    cases h with
    | entries h => rw [h]
    | options hp h =>
      rw [hp, h]
      rfl

end

end Declaration

/-! ## Kinds of commands -/

namespace Command

/-- What commands do. -/
inductive Kind where
  | set
  | unset
  | skip
  deriving DecidableEq

/-- What a command does. -/
def kind : Command → Kind
  | .set _ => .set
  | .unset _ => .unset
  | .skip _ => .skip

end Command

namespace Declaration

/-- What a declaration of `text` does under its options. -/
def kindOf (o : Options) (text : String) : Command.Kind :=
  if o.unsets then .unset
  else if o.skipsIfEmpty && text = "" then .skip
  else .set

@[simp]
theorem commandOf_kind (env : Environment) (o : Options) (key text : String) :
    (commandOf env o key text).kind = kindOf o text := by
  unfold commandOf kindOf
  split_ifs <;> rfl

/-- One declaration does one kind of thing to one variable in all environments. -/
theorem agree_of_command {d : Declaration} {env other : Environment} {c c' : Command}
    (h : d.command env = .ok c) (h' : d.command other = .ok c') :
    c.kind = c'.kind ∧ c.key = c'.key := by
  obtain ⟨key, text, o, hk, ho, rfl⟩ := command_eq_ok.mp h
  obtain ⟨key', text', o', hk', ho', rfl⟩ := command_eq_ok.mp h'
  obtain ⟨rfl, rfl⟩ := Prod.mk.inj (Except.ok.inj (hk.symm.trans hk'))
  obtain rfl := Except.ok.inj (ho.symm.trans ho')
  simp

/-- The first declaration of a list that cannot be read stands at a place, counted from 1, and is
refused with an error. -/
def FirstRefused (ds : List Declaration) (place : Nat) (e : Error) : Prop :=
  ∃ before d after, ds = before ++ d :: after ∧ (∀ b ∈ before, b.Readable) ∧ d.Refused e ∧
    place = before.length + 1

end Declaration

/-! ## Lists of declarations -/

namespace Resolution

open Declaration (FirstRefused)

/-- **The first declaration that is refused stops a list**, and nothing else does. -/
theorem continueFrom_eq_error {done : Nat} {env added : Environment} {ds : List Declaration}
    {e : Error} : continueFrom done env added ds = .error e ↔
      ∃ place own, FirstRefused ds place own ∧ e = own.atPlace (done + place) := by
  constructor
  · intro h
    induction ds generalizing done env added with
    | nil => cases h
    | cons d ds ih =>
      rw [continueFrom] at h
      cases hc : d.command env with
      | error own =>
        rw [hc] at h
        exact ⟨1, own, ⟨[], d, ds, rfl, fun _ hb => absurd hb List.not_mem_nil,
          Declaration.command_eq_error.mp hc, rfl⟩, (Except.error.inj h).symm⟩
      | ok c =>
        -- the refused one is among the others, which are counted from here
        have hd : d.Readable := Declaration.exists_command_iff.mp ⟨c, hc⟩
        rw [hc] at h
        cases hrest : continueFrom (done + 1) (c.apply env) (c.apply added) ds with
        | error e' =>
          simp only [hrest] at h
          obtain rfl := Except.error.inj h
          obtain ⟨place, own, ⟨before, d', after, rfl, hbefore, hown, rfl⟩, rfl⟩ := ih hrest
          refine ⟨before.length + 1 + 1, own, ⟨d :: before, d', after, rfl, ?_, hown, rfl⟩, ?_⟩
          · exact List.forall_mem_cons.mpr ⟨hd, hbefore⟩
          · congr 1
            omega
        | ok rest =>
          simp only [hrest] at h
          cases h
  · rintro ⟨place, own, ⟨before, d, after, rfl, hbefore, hown, rfl⟩, rfl⟩
    obtain ⟨first, hfirst⟩ : ∃ r, continueFrom done env added before = .ok r :=
      exists_continueFrom_iff.mpr hbefore
    rw [continueFrom_append, hfirst]
    simp only [Except.bind]
    rw [continueFrom, Declaration.command_eq_error.mpr hown]
    rfl

/-- Two resolutions of one list make commands of the same kinds and about the same variables. -/
theorem agree_of_eq_ok : ∀ {ds : List Declaration} {done done' : Nat}
    {env added env' added' : Environment} {r r' : Resolution},
    continueFrom done env added ds = .ok r → continueFrom done' env' added' ds = .ok r' →
    List.Forall₂ (fun c c' => c.kind = c'.kind ∧ c.key = c'.key) r.history r'.history
  | [], _, _, _, _, _, _, _, _, h, h' => by
    rw [← Except.ok.inj h, ← Except.ok.inj h']
    exact .nil
  | d :: ds, _, _, _, _, _, _, _, _, h, h' => by
    obtain ⟨c, rest, hc, hrest, rfl⟩ := continueFrom_cons.mp h
    obtain ⟨c', rest', hc', hrest', rfl⟩ := continueFrom_cons.mp h'
    exact .cons (Declaration.agree_of_command hc hc') (agree_of_eq_ok hrest hrest')

/-- A list fails with the error of the first declaration that is refused. -/
theorem resolve_eq_error {ds : List Declaration} {source : Environment} {e : Error} :
    resolve ds source = .error e ↔
      ∃ place own, FirstRefused ds place own ∧ e = own.atPlace place := by
  unfold resolve
  rw [continueFrom_eq_error]
  simp only [Nat.zero_add]

theorem fails_iff {ds : List Declaration} {source : Environment} :
    (∃ e, resolve ds source = .error e) ↔
      ∃ d ∈ ds, (∃ e, d.keyValue = .error e) ∨ ∃ e, d.readOptions = .error e := by
  have hfails : (∃ e, resolve ds source = .error e) ↔ ¬ ∃ r, resolve ds source = .ok r := by
    cases resolve ds source <;> simp
  rw [hfails]
  unfold resolve
  rw [exists_continueFrom_iff]
  simp only [not_forall, exists_prop, Declaration.not_readable_iff]

/-- **The declarations alone decide whether a resolution fails.** It fails iff one of them names no
variable or has options that cannot be read. The error is that of the first such declaration, its
entries before its options; the report of a malformed declaration tells its place, counted from 1.
So on any two environments a list fails with one error, or it resolves, and then the commands agree
one by one in what they do and to which variable. -/
theorem failure_by_declarations (ds : List Declaration) :
    (∀ source, (∃ e, resolve ds source = .error e) ↔
      ∃ d ∈ ds, (∃ e, d.keyValue = .error e) ∨ ∃ e, d.readOptions = .error e) ∧
    (∀ source e, resolve ds source = .error e ↔ ∃ place own, FirstRefused ds place own ∧
      e = own.atPlace place ∧
      ∀ describe, e.report describe = (own.report describe).atPlace place) ∧
    ∀ source other,
      (∃ e, resolve ds source = .error e ∧ resolve ds other = .error e) ∨
      ∃ r r', resolve ds source = .ok r ∧ resolve ds other = .ok r' ∧
        List.Forall₂ (fun c c' => c.kind = c'.kind ∧ c.key = c'.key) r.history r'.history := by
  refine ⟨fun _ => fails_iff, fun source e => ?_, fun source other => ?_⟩
  · rw [resolve_eq_error]
    refine exists_congr fun place => exists_congr fun own => and_congr_right fun hfirst =>
      (and_iff_left_of_imp ?_).symm
    rintro rfl describe
    obtain ⟨_, d, _, -, -, hown, -⟩ := hfirst
    exact hown.report_atPlace place describe
  · cases hsource : resolve ds source with
    | error e => exact Or.inl ⟨e, rfl, resolve_eq_error.mpr (resolve_eq_error.mp hsource)⟩
    | ok r =>
      cases hother : resolve ds other with
      | error e =>
        have hboth : resolve ds source = .error e :=
          resolve_eq_error.mpr (resolve_eq_error.mp hother)
        exact absurd (hsource.symm.trans hboth) nofun
      | ok r' => exact Or.inr ⟨r, r', rfl, rfl, agree_of_eq_ok hsource hother⟩

example :
    let items : Declaration := ⟨[(.text "LIST", .sequence [.text "1", .text "2"])]⟩
    (match resolve [.plain "OK" "1", items] .empty with
      | .ok _ => ""
      | .error e => e.message) =
      "Malformed environment declaration (LIST): declaration #2: " ++
        "value is not a string: a sequence" := by
  decide +kernel

end Resolution

end Stepwise
