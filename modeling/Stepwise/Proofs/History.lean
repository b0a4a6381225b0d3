import Stepwise.Proofs.Resolution

/-!
# What a history says of its result

A history holds skips, and commands about one variable that undo one another. Of each variable only
the last command counts that is no skip.

* `lastChange`: the last command of a history that sets or unsets a variable.
* `get?_replay`: after a replay that command decides what a variable is, and without one the
  variable is what it was.
* `replay_replay`: to replay a history once more changes nothing.
* `Resolution.history_complete`: **the history of a resolution accounts for it**: for the
  declarations, for the result, for what was added, and for each variable of them.
-/

namespace Stepwise

namespace Command

/-- Whether a command sets or unsets the variable of a name. -/
def changes (key : String) : Command → Bool
  | .set var => var.key = key
  | .unset k => k = key
  | .skip _ => false

/-- The variable that is there after a command that sets or unsets it. -/
def left? : Command → Option Variable
  | .set var => some var
  | _ => none

theorem get?_apply (c : Command) (env : Environment) (key : String) :
    (c.apply env).get? key = if c.changes key then c.left? else env.get? key := by
  cases c with
  | set var => simp [apply, changes, left?]
  | unset k => simp [apply, changes, left?]
  | skip k => simp [apply, changes]

end Command

/-- The last command of a history that sets or unsets the variable of a name. -/
def lastChange (key : String) (history : List Command) : Option Command :=
  (history.filter (·.changes key)).getLast?

theorem changes_of_lastChange {key : String} {history : List Command} {c : Command}
    (h : lastChange key history = some c) : c.changes key = true :=
  (List.mem_filter.mp (List.mem_of_getLast? h)).2

/-- **The last change of a variable decides** what it is after a replay. -/
theorem get?_replay (history : List Command) (env : Environment) (key : String) :
    (replay history env).get? key =
      (lastChange key history).elim (env.get? key) Command.left? := by
  induction history generalizing env with
  | nil => rfl
  | cons c cs ih =>
    rw [replay_cons, ih, Command.get?_apply, lastChange, lastChange, List.filter_cons]
    by_cases hc : c.changes key = true
    · rw [if_pos hc, if_pos hc, List.getLast?_cons]
      cases (cs.filter (·.changes key)).getLast? <;> rfl
    · rw [if_neg hc, if_neg hc]

/-- A replayed history changes nothing when it is replayed again. -/
theorem replay_replay (history : List Command) (env : Environment) :
    replay history (replay history env) = replay history env := by
  refine Environment.ext_get? fun key => ?_
  rw [get?_replay, get?_replay]
  cases lastChange key history <;> rfl

namespace Resolution

/-- **The history of a resolution accounts for it.** It has a command for each declaration, in
order, with the declaration's key. It makes the result out of the source and the added variables out
of nothing, and it changes nothing in the result. The last command that sets or unsets a variable
says what the variable is in both environments; without one it is as in the source, and not among
those added. -/
theorem history_complete {declarations : List Declaration} {source : Environment} {r : Resolution}
    (h : resolve declarations source = .ok r) :
    List.Forall₂ (fun d c => ∃ text, d.keyValue = .ok (c.key, text)) declarations r.history ∧
    replay r.history source = r.result ∧
    replay r.history .empty = r.added ∧
    replay r.history r.result = r.result ∧
    ∀ key, match lastChange key r.history with
      | some (.set v) => v.key = key ∧ r.result.get? key = some v ∧ r.added.get? key = some v
      | some (.unset k) => k = key ∧ r.result.get? key = none ∧ r.added.get? key = none
      | some (.skip _) => False
      | none => r.result.get? key = source.get? key ∧ r.added.get? key = none := by
  obtain ⟨hresult, hadded⟩ := eq_replay h
  refine ⟨forall₂_history h, hresult.symm, hadded.symm, ?_, fun key => ?_⟩
  · rw [hresult, replay_replay]
  · rw [hresult, hadded, get?_replay, get?_replay]
    cases hlast : lastChange key r.history with
    | none => exact ⟨rfl, rfl⟩
    | some c =>
      have hchanges := changes_of_lastChange hlast
      cases c with
      | set v => exact ⟨by simpa [Command.changes] using hchanges, rfl, rfl⟩
      | unset k => exact ⟨by simpa [Command.changes] using hchanges, rfl, rfl⟩
      | skip k => exact absurd hchanges (by simp [Command.changes])

/-- A variable is set from two others, one of which is then removed and one set anew; a fourth is
left alone. -/
theorem history_complete_interleaved :
    let source : Environment := .ofPairs [("A", "1"), ("B", "2"), ("D", "4")]
    let declarations : List Declaration :=
      [.expanded "C" "$A$B", .removal "A",
       (Declaration.plain "D" "").withOptions { skipIfEmpty := some true }, .expanded "B" "$C-$A"]
    ∃ r, resolve declarations source = .ok r ∧
      r.history = [.set ⟨"C", "12", false⟩, .unset "A", .skip "D", .set ⟨"B", "12-", false⟩] ∧
      replay r.history source = r.result ∧ replay r.history r.result = r.result ∧
      (r.result.get? "A" = none ∧ r.added.get? "A" = none) ∧
      (r.result.get? "B" = some ⟨"B", "12-", false⟩ ∧ r.added.get? "B" = some ⟨"B", "12-", false⟩) ∧
      (r.result.get? "D" = some ⟨"D", "4", false⟩ ∧ r.added.get? "D" = none) := by
  intro source declarations
  have hhistory : (resolve declarations source).toOption.map (·.history) =
      some [.set ⟨"C", "12", false⟩, .unset "A", .skip "D", .set ⟨"B", "12-", false⟩] := by
    decide +kernel
  obtain ⟨r, hr, hcommands⟩ := Option.map_eq_some_iff.mp hhistory
  have hresolve := eq_ok_of_toOption hr
  obtain ⟨-, hresult, -, hagain, hlast⟩ := history_complete hresolve
  have hA : lastChange "A" r.history = some (.unset "A") := by rw [hcommands]; decide
  have hB : lastChange "B" r.history = some (.set ⟨"B", "12-", false⟩) := by rw [hcommands]; decide
  have hD : lastChange "D" r.history = none := by rw [hcommands]; decide
  have hlastA := hlast "A"
  have hlastB := hlast "B"
  have hlastD := hlast "D"
  rw [hA] at hlastA
  rw [hB] at hlastB
  rw [hD] at hlastD
  have hsource : source.get? "D" = some ⟨"D", "4", false⟩ := by decide
  exact ⟨r, hresolve, hcommands, hresult, hagain, hlastA.2, hlastB.2, hlastD.1.trans hsource,
    hlastD.2⟩

end Resolution

end Stepwise
