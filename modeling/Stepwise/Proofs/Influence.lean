import Stepwise.Proofs.Resolution

/-!
# What declarations draw on

A list of declarations is resolved on top of some environment, and its values may be expanded from
what was there before. This module keeps account of the names whose values come from outside the
list, without resolving it.

* `Environment.filled`: the names that come from outside before the first declaration.
* `Declaration.draws`: a declaration expands a name whose value comes from outside.
* `Declaration.spread`: the names whose values come from outside after a declaration.
* `Environment.AgreeOff`: two environments give the other names the same values.

Results:
* `command_agree`: **one declaration in two environments** that agree off some names. Afterwards
  they agree off the names to which it spread them, and the same value is set unless it draws on
  them.
* `continueFrom_agree`: the same for a list, which resolves in one environment iff in the other.
-/

namespace Stepwise

/-! ## Expansion -/

/-- A text is expanded alike where the names that it refers to have the same values. -/
theorem Expansion.expand_congr {f g : String → String} {text : String}
    (h : ∀ name ∈ references text, f name = g name) : expand f text = expand g text := by
  have hrender : ∀ s ∈ cut (Utf8.encode text),
      s.render (fun name => Utf8.encode (f (Utf8.decodeLossy name))) =
        s.render (fun name => Utf8.encode (g (Utf8.decodeLossy name))) := by
    intro s hs
    cases s with
    | text bytes => rfl
    | lone => rfl
    | dropped => rfl
    | reference name =>
      have hmem : Utf8.decodeLossy name ∈ references text :=
        List.mem_map.mpr ⟨name, List.mem_filterMap.mpr ⟨_, hs, rfl⟩, rfl⟩
      rw [Segment.render, Segment.render, h _ hmem]
  unfold expand expandBytes
  rw [List.flatMap_def, List.flatMap_def, List.map_congr_left hrender]

/-! ## Names from outside -/

namespace Environment

/-- The names whose values are not empty. -/
def filled (env : Environment) : List String :=
  (env.vars.filter (·.value ≠ "")).map (·.key)

/-- Names that are not in the list have the same values. -/
def AgreeOff (outside : List String) (e f : Environment) : Prop :=
  ∀ name, name ∉ outside → Declaration.lookUp e name = Declaration.lookUp f name

/-- An environment agrees with the empty one off the names whose values are not empty. -/
theorem agreeOff_filled (env : Environment) : AgreeOff env.filled env .empty := by
  intro name hname
  rw [Declaration.lookUp_empty]
  unfold Declaration.lookUp value?
  cases hv : env.get? name with
  | none => rfl
  | some v =>
    obtain rfl := key_of_get? hv
    by_cases hempty : v.value = ""
    · exact hempty
    · refine absurd (List.mem_map.mpr ⟨v, List.mem_filter.mpr ⟨mem_vars_iff.mpr hv, ?_⟩, rfl⟩) hname
      simpa using hempty

end Environment

namespace Declaration

open Environment (AgreeOff)

/-- The names that the value of a declaration is expanded from. -/
def reads (d : Declaration) : List String :=
  match d.keyValue, d.readOptions with
  | .ok (_, text), .ok o => if o.expands then Expansion.references text else []
  | _, _ => []

/-- Whether the value of a declaration is expanded from one of these names. -/
def draws (outside : List String) (d : Declaration) : Bool :=
  d.reads.any (· ∈ outside)

/-- The names whose values come from outside after a declaration, given those before it. A variable
that is set comes from outside if its value draws on such names; one that is removed does not. -/
def spread (outside : List String) (d : Declaration) : List String :=
  match d.keyValue, d.readOptions with
  | .ok (key, text), .ok o =>
    if o.unsets then outside.filter (· ≠ key)
    else if o.skipsIfEmpty && text = "" then outside
    else if d.draws outside then key :: outside
    else outside.filter (· ≠ key)
  | _, _ => outside

/-! ## Two environments -/

theorem variableOf_key (env : Environment) (o : Options) (key text : String) :
    (variableOf env o key text).key = key := by
  unfold variableOf
  split <;> rfl

theorem variableOf_value (env : Environment) (o : Options) (key text : String) :
    (variableOf env o key text).value =
      if o.expands then Expansion.expand (lookUp env) text else text := by
  unfold variableOf
  split <;> rfl

theorem draws_eq_false {outside : List String} {d : Declaration} :
    d.draws outside = false ↔ ∀ name ∈ d.reads, name ∉ outside := by
  simp [draws]

theorem lookUp_eq_of_notMem_filter {outside : List String} {e f : Environment}
    (h : AgreeOff outside e f) {key name : String} (hname : name ∉ outside.filter (· ≠ key))
    (hk : key ≠ name) : lookUp e name = lookUp f name :=
  h name fun hmem => hname (List.mem_filter.mpr ⟨hmem, by simpa using Ne.symm hk⟩)

/-- Environments that agree still do after a variable gets one value in both. -/
theorem agreeOff_insert {outside : List String} {e f : Environment} (h : AgreeOff outside e f)
    {v w : Variable} (hkey : v.key = w.key) (hvalue : v.value = w.value) :
    AgreeOff (outside.filter (· ≠ v.key)) (e.insert v) (f.insert w) := by
  intro name hname
  rw [lookUp_insert, lookUp_insert, ← hkey, ← hvalue]
  by_cases hk : v.key = name
  · rw [if_pos hk, if_pos hk]
  · rw [if_neg hk, if_neg hk]
    exact lookUp_eq_of_notMem_filter h hname hk

/-- If the values differ, they still agree off the name too. -/
theorem agreeOff_insert_cons {outside : List String} {e f : Environment}
    (h : AgreeOff outside e f) {v w : Variable} (hkey : v.key = w.key) :
    AgreeOff (v.key :: outside) (e.insert v) (f.insert w) := by
  intro name hname
  rw [List.mem_cons, not_or] at hname
  rw [lookUp_insert, lookUp_insert, ← hkey, if_neg (Ne.symm hname.1), if_neg (Ne.symm hname.1)]
  exact h name hname.2

theorem agreeOff_erase {outside : List String} {e f : Environment} (h : AgreeOff outside e f)
    (key : String) : AgreeOff (outside.filter (· ≠ key)) (e.erase key) (f.erase key) := by
  intro name hname
  rw [lookUp_erase, lookUp_erase]
  by_cases hk : key = name
  · rw [if_pos hk, if_pos hk]
  · rw [if_neg hk, if_neg hk]
    exact lookUp_eq_of_notMem_filter h hname hk

/-- **One declaration in two environments.** -/
theorem command_agree {outside : List String} {e f : Environment} (h : AgreeOff outside e f)
    {d : Declaration} {c : Command} (hc : d.command e = .ok c) : ∃ c',
      d.command f = .ok c' ∧
      AgreeOff (d.spread outside) (c.apply e) (c'.apply f) ∧
      (d.draws outside = false → c'.value? = c.value?) := by
  obtain ⟨key, text, o, hk, ho, rfl⟩ := command_eq_ok.mp hc
  refine ⟨commandOf f o key text, command_eq_ok.mpr ⟨key, text, o, hk, ho, rfl⟩, ?_⟩
  -- the environments decide about the value only, not about the kind of the command
  have hvalue : d.draws outside = false →
      (variableOf e o key text).value = (variableOf f o key text).value := by
    intro hnot
    rw [draws_eq_false] at hnot
    rw [variableOf_value, variableOf_value]
    by_cases hx : o.expands = true
    · rw [if_pos hx, if_pos hx]
      refine Expansion.expand_congr fun name hname => h name (hnot name ?_)
      simpa [reads, hk, ho, hx] using hname
    · rw [if_neg hx, if_neg hx]
  have hkey : (variableOf e o key text).key = (variableOf f o key text).key := by
    rw [variableOf_key, variableOf_key]
  unfold commandOf
  by_cases hunset : o.unsets = true
  · simp only [spread, hk, ho, if_pos hunset]
    exact ⟨agreeOff_erase h key, fun _ => trivial⟩
  · by_cases hskip : (o.skipsIfEmpty && decide (text = "")) = true
    · simp only [spread, hk, ho, if_neg hunset, if_pos hskip]
      exact ⟨h, fun _ => trivial⟩
    · simp only [spread, hk, ho, if_neg hunset, if_neg hskip]
      refine ⟨?_, fun hnot => congrArg some (hvalue hnot).symm⟩
      cases hd : d.draws outside with
      | true =>
        have hagree := agreeOff_insert_cons h hkey
        rw [variableOf_key] at hagree
        exact hagree
      | false =>
        have hagree := agreeOff_insert h hkey (hvalue hd)
        rw [variableOf_key] at hagree
        exact hagree

end Declaration

/-- **A list of declarations in two environments.** Where a declaration draws on nothing from
outside, both set the same value. -/
theorem Resolution.continueFrom_agree : ∀ {ds : List Declaration} {outside : List String}
    {done : Nat} {e f added : Environment} {r : Resolution} (done' : Nat) (added' : Environment),
    Environment.AgreeOff outside e f → continueFrom done e added ds = .ok r →
    ∃ r', continueFrom done' f added' ds = .ok r' ∧
      ∀ (i : Nat) (d : Declaration) (c : Command), ds[i]? = some d →
        d.draws ((ds.take i).foldl Declaration.spread outside) = false →
        r.history[i]? = some c → ∃ c', r'.history[i]? = some c' ∧ c'.value? = c.value?
  | [], _, _, _, f, _, _, _, added', _, _ =>
    ⟨⟨[], f, added'⟩, rfl, fun i d c hd => absurd hd (by simp)⟩
  | d :: ds, outside, _, _, f, _, _, done', added', h, hr => by
    obtain ⟨c, rest, hc, hrest, rfl⟩ := continueFrom_cons.mp hr
    obtain ⟨c', hc', hagree, hvalue⟩ := Declaration.command_agree h hc
    obtain ⟨rest', hrest', ih⟩ := continueFrom_agree (done' + 1) (c'.apply added') hagree hrest
    refine ⟨{ rest' with history := c' :: rest'.history },
      continueFrom_cons.mpr ⟨c', rest', hc', hrest', rfl⟩, ?_⟩
    intro i d₁ c₁ hd hnot hc₁
    cases i with
    | zero =>
      obtain rfl : d = d₁ := by simpa using hd
      obtain rfl : c = c₁ := by simpa using hc₁
      exact ⟨c', rfl, hvalue (by simpa using hnot)⟩
    | succ i => exact ih i d₁ c₁ (by simpa using hd) (by simpa using hnot) (by simpa using hc₁)

end Stepwise
