import Stepwise.Proofs.Secrets.Given

/-!
# Resolution in stages

A list of declarations can be cut anywhere. Its first part is resolved on the source and its second
part on the environment that the first one makes, and nothing else passes from one to the other. The
command `envs` resolves in two stages, an inventory and then declarations; to resolve both lists as
one comes to the same.

* `Error.countedOn`: an error of a list that stands after other declarations.
* `Resolution.continueFrom_countedOn`, `continueFrom_added`: where a list stands changes the place
  in its error, and what was added before changes what is added in the end; neither has another
  effect.
* `Resolution.resolve_append`: **a list is resolved in two stages**, wherever it is cut.
* `Resolution.command_getElem?_history`: a command is what its declaration does after the commands
  before it.
* `CommandLine.lines_tells`: the answer of the command `envs`, told from one resolution of both
  lists.
* `Resolution.resolve_in_stages`: **resolution goes from left to right**, all of this together.
-/

namespace Stepwise

/-- The error of a list of declarations when `n` other ones stand before the list. -/
def Error.countedOn (n : Nat) : Error → Error
  | .malformed key place fault => .malformed key (place.map (· + n)) fault
  | e => e

theorem Error.countedOn_atPlace (n place : Nat) (e : Error) :
    (e.atPlace place).countedOn n = e.atPlace (place + n) := by
  cases e <;> rfl

namespace Resolution

/-- **Where a list stands** changes nothing but the place in its error. -/
theorem continueFrom_countedOn (n : Nat) : ∀ (done : Nat) (env added : Environment)
    (ds : List Declaration), continueFrom (done + n) env added ds =
      (continueFrom done env added ds).mapError (Error.countedOn n)
  | done, env, added, [] => rfl
  | done, env, added, d :: ds => by
    rw [continueFrom, continueFrom]
    cases d.command env with
    | error e =>
      show Except.error (e.atPlace (done + n + 1)) = .error ((e.atPlace (done + 1)).countedOn n)
      rw [Error.countedOn_atPlace, Nat.add_right_comm]
    | ok c =>
      simp only
      rw [Nat.add_right_comm, continueFrom_countedOn n (done + 1)]
      cases continueFrom (done + 1) (c.apply env) (c.apply added) ds <;> rfl

/-- **What was added before** is what the history is replayed on in the end. -/
theorem continueFrom_added (before : Environment) : ∀ (done : Nat) (env added : Environment)
    (ds : List Declaration), continueFrom done env before ds =
      (continueFrom done env added ds).map fun r => { r with added := replay r.history before }
  | done, env, added, [] => rfl
  | done, env, added, d :: ds => by
    rw [continueFrom, continueFrom]
    cases d.command env with
    | error e => rfl
    | ok c =>
      simp only
      rw [continueFrom_added (c.apply before) (done + 1) (c.apply env) (c.apply added) ds]
      cases continueFrom (done + 1) (c.apply env) (c.apply added) ds <;> rfl

/-- A list that stands after `done` declarations is resolved as it is alone. -/
theorem continueFrom_eq_resolve (done : Nat) (env added : Environment) (ds : List Declaration) :
    continueFrom done env added ds = ((resolve ds env).mapError (Error.countedOn done)).map
      fun r => { r with added := replay r.history added } := by
  rw [resolve, ← continueFrom_countedOn, Nat.zero_add, ← continueFrom_added]

/-- **A list is resolved in two stages**, wherever it is cut: the second part on what the first one
makes. A failure is that of the first part, or that of the second with its place counted on. -/
theorem resolve_append (first second : List Declaration) (source : Environment) :
    resolve (first ++ second) source = (do
      let begun ← resolve first source
      let ended ← (resolve second begun.result).mapError (Error.countedOn first.length)
      return {
        history := begun.history ++ ended.history
        result := ended.result
        added := replay ended.history begun.added }) := by
  show continueFrom 0 source .empty (first ++ second) = _
  rw [continueFrom_append]
  show (resolve first source).bind _ = (resolve first source).bind _
  congr 1
  funext begun
  rw [Nat.zero_add, continueFrom_eq_resolve]
  cases resolve second begun.result <;> rfl

/-- The command at a place is what the declaration there does, once the commands before it are
carried out. -/
theorem command_getElem?_history {declarations : List Declaration} {source : Environment}
    {r : Resolution} (h : resolve declarations source = .ok r) {i : Nat} {d : Declaration}
    (hd : declarations[i]? = some d) :
    ∃ c, r.history[i]? = some c ∧ d.command (replay (r.history.take i) source) = .ok c := by
  obtain ⟨hlt, hget⟩ := List.getElem?_eq_some_iff.mp hd
  have hcut : declarations = declarations.take i ++ d :: declarations.drop (i + 1) := by
    rw [← hget, List.getElem_cons_drop, List.take_append_drop]
  rw [hcut] at h
  obtain ⟨first, second, hfirst, hsecond, rfl⟩ := exists_of_continueFrom_append h
  obtain ⟨c, rest, hc, -, rfl⟩ := continueFrom_cons.mp hsecond
  have hlength : first.history.length = i := by
    rw [history_length hfirst, List.length_take, Nat.min_eq_left (Nat.le_of_lt hlt)]
  refine ⟨c, ?_, ?_⟩
  · rw [← hlength]
    simp
  · rw [← hlength, List.take_left, ← (eq_replay hfirst).1]
    exact hc

end Resolution

namespace CommandLine

/-- What the command `envs` answers, given what resolving its inventory and its declarations as one
list gives: the lines of the commands after those of the inventory. In a failure places count from
the first declaration of the file that is at fault. -/
def Tells (inventory : List Declaration) (env : Environment) (answer : Except Error (List String)) :
    Except Error Resolution → Prop
  | .ok whole => ∃ secrets, SecretSet.ofDeclarations inventory = .ok secrets ∧
      answer = .ok ((whole.history.drop inventory.length).map (Command.line secrets))
  | .error e => ∃ own, answer = .error own ∧
      ((resolve inventory env = .error own ∧ e = own) ∨
        ((∃ base, resolve inventory env = .ok base) ∧ e = own.countedOn inventory.length))

/-- **The command `envs` resolves two lists as one**: its answer is told from the resolution of
both. -/
theorem lines_tells {request : EnvsRequest} {env : Environment} {read : String → FileRead}
    {inventory declarations : List Declaration}
    (hinventory : inventoryOf request.inventory read = .ok inventory)
    (hload : Declaration.load request.declarations (read request.declarations) = .ok declarations) :
    Tells inventory env (request.lines env read) (resolve (inventory ++ declarations) env) := by
  unfold EnvsRequest.lines
  rw [Resolution.resolve_append, hinventory, hload]
  simp only [bind, Except.bind]
  cases hbase : resolve inventory env with
  | error e => exact ⟨e, rfl, Or.inl ⟨hbase, rfl⟩⟩
  | ok base =>
    simp only
    cases resolve declarations base.result with
    | error e => exact ⟨e, rfl, Or.inr ⟨⟨base, hbase⟩, rfl⟩⟩
    | ok effects =>
      -- the inventory resolves on its own because it does on the variables of the process
      obtain ⟨secrets, hsecrets, -⟩ := SecretSet.covers_ofDeclarations hbase
      refine ⟨secrets, hsecrets, ?_⟩
      rw [hsecrets, List.drop_left' (Resolution.history_length hbase)]
      rfl

end CommandLine

namespace Resolution

open CommandLine (EnvsRequest inventoryOf Tells)

/-- **Resolution goes from left to right.** A list that is cut in two is resolved in two stages: it
resolves iff the first part does on the source and the second on the result of the first; the
histories follow one another, the result is the second one, and the second history adds to what the
first has added. A failure is that of the first part, or that of the second with its place counted
on. So each command is what its declaration does after the commands before it, and does not depend
on what comes later. The command `envs`, which resolves an inventory and then declarations, answers
as one resolution of both lists tells. -/
theorem resolve_in_stages (source : Environment) (first second : List Declaration) :
    resolve (first ++ second) source = (do
      let begun ← resolve first source
      let ended ← (resolve second begun.result).mapError (Error.countedOn first.length)
      return {
        history := begun.history ++ ended.history
        result := ended.result
        added := replay ended.history begun.added }) ∧
    (∀ whole, resolve (first ++ second) source = .ok whole →
      (∀ (i : Nat) (d : Declaration), (first ++ second)[i]? = some d →
        ∃ c, whole.history[i]? = some c ∧
          d.command (replay (whole.history.take i) source) = .ok c) ∧
      ∀ later other, resolve (first ++ later) source = .ok other →
        other.history.take first.length = whole.history.take first.length) ∧
    ∀ (request : EnvsRequest) (read : String → FileRead),
      inventoryOf request.inventory read = .ok first →
      Declaration.load request.declarations (read request.declarations) = .ok second →
      Tells first source (request.lines source read) (resolve (first ++ second) source) := by
  refine ⟨resolve_append first second source, fun whole hwhole => ⟨fun i d hd => ?_, ?_⟩, ?_⟩
  · exact command_getElem?_history hwhole hd
  · intro later other hother
    obtain ⟨begun, _, hbegun, -, rfl⟩ := exists_of_continueFrom_append hwhole
    obtain ⟨again, _, hagain, -, rfl⟩ := exists_of_continueFrom_append hother
    obtain rfl : begun = again := Except.ok.inj (hbegun.symm.trans hagain)
    rw [List.take_left' (history_length hbegun), List.take_left' (history_length hbegun)]
  · intro request read hinventory hload
    exact CommandLine.lines_tells hinventory hload

/-- A list that expands a variable of the list before ends in a declaration that cannot be resolved;
and the command `envs` hides a secret of its inventory in what is expanded from it. -/
theorem resolve_in_stages_expanded :
    let first : List Declaration := [.plain "A" "1"]
    let second : List Declaration := [.expanded "B" "$A", ⟨[(.text "C", .sequence [])]⟩]
    let request : EnvsRequest := { inventory := some "inventory", declarations := "declarations" }
    let read (path : String) : FileRead := .ok (Utf8.encode
      (if path = "inventory" then "envs: [A: hidden]"
        else "- B: $A\n  opts: \x7bis_expand: true\x7d"))
    resolve (first ++ second) .empty = .error (.malformed "C" (some 3) (.valueNotText .sequence)) ∧
    ∃ inventory declarations whole, inventoryOf request.inventory read = .ok inventory ∧
      Declaration.load request.declarations (read request.declarations) = .ok declarations ∧
      resolve (inventory ++ declarations) .empty = .ok whole ∧
      whole.history[1]? = some (.set ⟨"B", "hidden", false⟩) ∧
      request.lines .empty read = .ok ["set B=[REDACTED]"] ∧
      Tells inventory .empty (request.lines .empty read) (.ok whole) := by
  intro first second request read
  constructor
  · rw [(resolve_in_stages .empty first second).1]
    rfl
  · have hhistory : ((inventoryOf request.inventory read).toOption.bind fun inventory =>
        (Declaration.load request.declarations (read request.declarations)).toOption.bind
          fun declarations => (resolve (inventory ++ declarations) .empty).toOption.map
            (·.history[1]?)) = some (some (.set ⟨"B", "hidden", false⟩)) := by
      decide +kernel
    obtain ⟨inventory, hinventory, hrest⟩ := Option.bind_eq_some_iff.mp hhistory
    obtain ⟨declarations, hload, hrest⟩ := Option.bind_eq_some_iff.mp hrest
    obtain ⟨whole, hwhole, hcommand⟩ := Option.map_eq_some_iff.mp hrest
    have hwhole := eq_ok_of_toOption hwhole
    have htells := (resolve_in_stages .empty inventory declarations).2.2 request read
      (eq_ok_of_toOption hinventory) (eq_ok_of_toOption hload)
    rw [hwhole] at htells
    exact ⟨inventory, declarations, whole, eq_ok_of_toOption hinventory, eq_ok_of_toOption hload,
      hwhole, hcommand, eq_ok_of_toOption (by decide +kernel), htells⟩

end Resolution

end Stepwise
