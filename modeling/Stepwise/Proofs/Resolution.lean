import Mathlib.Tactic.SplitIfs
import Stepwise.Proofs.Success
import Stepwise.Resolution

/-!
# Resolution, one declaration after another

What one declaration does and what a list of them does, taken apart.

* `Declaration.command_eq_ok`: a declaration is carried out as its entries and options say, and
  whether it can be does not depend on the environment.
* `Resolution.continueFrom_cons`, `continueFrom_append`: a list is resolved from left to right.
* `Resolution.history_length`, `forall₂_history`: the history has a command for each declaration,
  with its key.
* `Resolution.eq_replay`: the history makes the result.
* `Resolution.exists_continueFrom_iff`: a list resolves iff each of its declarations can be read.
-/

namespace Stepwise

namespace Declaration

/-! ## One declaration -/

theorem command_eq_ok {d : Declaration} {env : Environment} {c : Command} :
    d.command env = .ok c ↔ ∃ key text o,
      d.keyValue = .ok (key, text) ∧ d.readOptions = .ok o ∧ c = commandOf env o key text := by
  unfold command
  cases hk : d.keyValue with
  | error e => simp
  | ok kv =>
    obtain ⟨key, text⟩ := kv
    cases ho : d.readOptions with
    | error e => simp [Except.map]
    | ok o =>
      simp only [Except.map, Except.ok.injEq, Prod.mk.injEq]
      constructor
      · rintro rfl
        exact ⟨key, text, o, ⟨rfl, rfl⟩, rfl, rfl⟩
      · rintro ⟨_, _, _, ⟨rfl, rfl⟩, rfl, rfl⟩
        rfl

@[simp]
theorem commandOf_key (env : Environment) (o : Options) (key text : String) :
    (commandOf env o key text).key = key := by
  unfold commandOf variableOf
  split_ifs <;> rfl

/-- A command is about the variable of its declaration. -/
theorem keyValue_of_command {d : Declaration} {env : Environment} {c : Command}
    (h : d.command env = .ok c) : ∃ text, d.keyValue = .ok (c.key, text) := by
  obtain ⟨key, text, o, hk, -, rfl⟩ := command_eq_ok.mp h
  exact ⟨text, by rw [commandOf_key, hk]⟩

/-- A declaration names a variable, and its options can be read. -/
def Readable (d : Declaration) : Prop :=
  (∃ p, d.keyValue = .ok p) ∧ ∃ o, d.readOptions = .ok o

/-- **What can be read can be carried out**, in any environment. -/
theorem exists_command_iff {d : Declaration} {env : Environment} :
    (∃ c, d.command env = .ok c) ↔ d.Readable := by
  constructor
  · rintro ⟨c, hc⟩
    obtain ⟨key, text, o, hk, ho, -⟩ := command_eq_ok.mp hc
    exact ⟨⟨(key, text), hk⟩, o, ho⟩
  · rintro ⟨⟨⟨key, text⟩, hk⟩, o, ho⟩
    exact ⟨commandOf env o key text, command_eq_ok.mpr ⟨key, text, o, hk, ho, rfl⟩⟩

@[simp]
theorem lookUp_empty (name : String) : lookUp .empty name = "" := rfl

@[simp]
theorem lookUp_insert (env : Environment) (v : Variable) (name : String) :
    lookUp (env.insert v) name = if v.key = name then v.value else lookUp env name := by
  unfold lookUp Environment.value?
  rw [Environment.get?_insert]
  split <;> rfl

@[simp]
theorem lookUp_erase (env : Environment) (key name : String) :
    lookUp (env.erase key) name = if key = name then "" else lookUp env name := by
  unfold lookUp Environment.value?
  rw [Environment.get?_erase]
  split <;> rfl

end Declaration

/-! ## Lists of declarations -/

theorem replay_cons (c : Command) (cs : List Command) (env : Environment) :
    replay (c :: cs) env = replay cs (c.apply env) := rfl

namespace Resolution

/-- The first declaration is carried out, and the others in the environment that it made. -/
theorem continueFrom_cons {done : Nat} {env added : Environment} {d : Declaration}
    {ds : List Declaration} {r : Resolution} :
    continueFrom done env added (d :: ds) = .ok r ↔ ∃ c rest,
      d.command env = .ok c ∧
      continueFrom (done + 1) (c.apply env) (c.apply added) ds = .ok rest ∧
      r = { rest with history := c :: rest.history } := by
  rw [continueFrom]
  cases hc : d.command env with
  | error e => simp
  | ok c =>
    cases hr : continueFrom (done + 1) (c.apply env) (c.apply added) ds with
    | error e => simp [hr]
    | ok rest =>
      simp only [hr, Except.ok.injEq]
      constructor
      · rintro rfl
        exact ⟨c, rest, rfl, hr, rfl⟩
      · rintro ⟨_, _, rfl, h, rfl⟩
        rw [hr, Except.ok.injEq] at h
        rw [h]

/-- **A list is resolved part by part**: the second part on what the first one made, its places
counted on. -/
theorem continueFrom_append : ∀ (done : Nat) (env added : Environment) (xs ys : List Declaration),
    continueFrom done env added (xs ++ ys) =
      (continueFrom done env added xs).bind fun first =>
        (continueFrom (done + xs.length) first.result first.added ys).map fun second =>
          { second with history := first.history ++ second.history }
  | done, env, added, [], ys => by
    show continueFrom done env added ys =
      (continueFrom done env added ys).map fun second => { second with history := second.history }
    cases continueFrom done env added ys <;> rfl
  | done, env, added, d :: xs, ys => by
    rw [List.cons_append, continueFrom, continueFrom]
    cases hc : d.command env with
    | error e => rfl
    | ok c =>
      simp only
      rw [continueFrom_append, List.length_cons, Nat.add_assoc, Nat.add_comm 1]
      cases continueFrom (done + 1) (c.apply env) (c.apply added) xs with
      | error e => rfl
      | ok first =>
        simp only [Except.bind]
        cases continueFrom (done + (xs.length + 1)) first.result first.added ys <;> rfl

/-- What comes after a list that resolves is resolved on what the list made. -/
theorem resolve_append_of_eq_ok {first : List Declaration} {source : Environment} {r : Resolution}
    (h : resolve first source = .ok r) (second : List Declaration) :
    resolve (first ++ second) source =
      (continueFrom first.length r.result r.added second).map fun rest =>
        { rest with history := r.history ++ rest.history } := by
  unfold resolve at h ⊢
  rw [continueFrom_append, h, Nat.zero_add]
  rfl

/-- A list in two parts that resolves: both parts do, and their histories follow one another. -/
theorem exists_of_continueFrom_append {done : Nat} {env added : Environment}
    {xs ys : List Declaration} {r : Resolution}
    (h : continueFrom done env added (xs ++ ys) = .ok r) : ∃ first second,
      continueFrom done env added xs = .ok first ∧
      continueFrom (done + xs.length) first.result first.added ys = .ok second ∧
      r = { second with history := first.history ++ second.history } := by
  rw [continueFrom_append] at h
  obtain ⟨first, hfirst, h⟩ := bind_eq_ok.mp h
  obtain ⟨second, hsecond, rfl⟩ := map_eq_ok.mp h
  exact ⟨first, second, hfirst, hsecond, rfl⟩

/-- **A list resolves iff each of its declarations can be read**, wherever it stands. -/
theorem exists_continueFrom_iff : ∀ {ds : List Declaration} {done : Nat} {env added : Environment},
    (∃ r, continueFrom done env added ds = .ok r) ↔ ∀ d ∈ ds, d.Readable
  | [], _, _, _ => ⟨fun _ _ hd => absurd hd List.not_mem_nil, fun _ => ⟨_, rfl⟩⟩
  | d :: ds, done, env, added => by
    rw [List.forall_mem_cons]
    constructor
    · rintro ⟨r, hr⟩
      obtain ⟨c, rest, hc, hrest, -⟩ := continueFrom_cons.mp hr
      exact ⟨Declaration.exists_command_iff.mp ⟨c, hc⟩, exists_continueFrom_iff.mp ⟨rest, hrest⟩⟩
    · rintro ⟨hd, hds⟩
      obtain ⟨c, hc⟩ : ∃ c, d.command env = .ok c := Declaration.exists_command_iff.mpr hd
      obtain ⟨rest, hrest⟩ := exists_continueFrom_iff.mpr hds
      exact ⟨_, continueFrom_cons.mpr ⟨c, rest, hc, hrest, rfl⟩⟩

/-- **The history makes both environments**: the result from the one that was there, and the added
variables from those that were added before. -/
theorem eq_replay : ∀ {ds : List Declaration} {done : Nat} {env added : Environment}
    {r : Resolution}, continueFrom done env added ds = .ok r →
    r.result = replay r.history env ∧ r.added = replay r.history added
  | [], _, _, _, _, h => by
    rw [continueFrom, Except.ok.injEq] at h
    rw [← h]
    exact ⟨rfl, rfl⟩
  | d :: ds, _, _, _, _, h => by
    obtain ⟨c, rest, -, hrest, rfl⟩ := continueFrom_cons.mp h
    obtain ⟨hresult, hadded⟩ := eq_replay hrest
    rw [replay_cons, replay_cons, ← hresult, ← hadded]
    exact ⟨rfl, rfl⟩

/-- **The history is about the declarations**, one after another: the command at a place has the key
of the declaration there. -/
theorem forall₂_history : ∀ {ds : List Declaration} {done : Nat} {env added : Environment}
    {r : Resolution}, continueFrom done env added ds = .ok r →
    List.Forall₂ (fun d c => ∃ text, d.keyValue = .ok (c.key, text)) ds r.history
  | [], _, _, _, _, h => by
    rw [continueFrom, Except.ok.injEq] at h
    rw [← h]
    exact .nil
  | d :: ds, _, _, _, _, h => by
    obtain ⟨c, rest, hc, hrest, rfl⟩ := continueFrom_cons.mp h
    exact .cons (Declaration.keyValue_of_command hc) (forall₂_history hrest)

/-- The history has one command for each declaration. -/
theorem history_length {ds : List Declaration} {done : Nat} {env added : Environment}
    {r : Resolution} (h : continueFrom done env added ds = .ok r) :
    r.history.length = ds.length :=
  (forall₂_history h).length_eq.symm

end Resolution

end Stepwise
