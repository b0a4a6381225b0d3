import Stepwise.Proofs.Secrets.Members

/-!
# How a set of secrets is made

A set is made of values, of the values that declarations set or of those of sensitive variables; it
is extended by more values, and merged with another set. In whatever way it came about, it is the
set of all values that were supplied for it, one after another.

* `SecretSet.Assembled`: the sets that can be made, each with the values that were supplied.
* `SecretSet.foldl_push_foldl_push`: what a set holds can be pushed instead of what was pushed to
  it. `extend_eq_merge_ofList`: **extending is merging**.
* `SecretSet.Assembled.eq_ofList`: **only what was supplied counts**, not how.
* `SecretSet.values_of_assembled`: what holds of the values of every set that can be made.
-/

namespace Stepwise.SecretSet

/-! ## Variants -/

theorem newline_notMem_escapeLines (v : String) : '\n' ∉ (escapeLines v).toList := by
  rw [escapeLines, String.toList_ofList, List.mem_flatMap]
  rintro ⟨c, -, hc⟩
  split at hc
  · exact absurd hc (by decide)
  · rename_i hne
    exact hne (List.mem_singleton.mp hc).symm

theorem escapeLines_ne_empty {v : String} (h : '\n' ∈ v.toList) : escapeLines v ≠ "" := by
  intro heq
  have hmem : '\\' ∈ (escapeLines v).toList := by
    rw [escapeLines, String.toList_ofList, List.mem_flatMap]
    exact ⟨'\n', h, by decide⟩
  rw [heq] at hmem
  exact absurd hmem (by decide)

/-- A value adds itself, unless it is empty, and what it looks like with its line breaks escaped. -/
theorem mem_variants_iff {v w : String} :
    w ∈ variants v ↔ v ≠ "" ∧ w = v ∨ '\n' ∈ v.toList ∧ w = escapeLines v := by
  unfold variants
  by_cases hempty : v = ""
  · subst hempty
    simp
  · by_cases hline : '\n' ∈ v.toList <;> simp [hempty, hline]

theorem empty_notMem_variants (v : String) : "" ∉ variants v := by
  rw [mem_variants_iff]
  rintro (⟨hne, heq⟩ | ⟨hline, heq⟩)
  · exact hne heq.symm
  · exact escapeLines_ne_empty hline heq.symm

/-- The variants of a value with line breaks are its own. -/
theorem escapeLines_mem_variants {v w : String} (hw : w ∈ variants v) (hline : '\n' ∈ w.toList) :
    escapeLines w ∈ variants v := by
  obtain ⟨-, rfl⟩ | ⟨-, rfl⟩ := mem_variants_iff.mp hw
  · exact mem_variants_iff.mpr (Or.inr ⟨hline, rfl⟩)
  · exact absurd hline (newline_notMem_escapeLines v)

/-! ## Pushing -/

theorem prefix_push (set : SecretSet) (v : String) : set.values <+: (set.push v).values := by
  unfold push
  split
  · exact List.prefix_refl _
  · exact List.prefix_append _ _

theorem nodup_push {set : SecretSet} (h : set.values.Nodup) (v : String) :
    (set.push v).values.Nodup := by
  by_cases hv : v ∈ set.values
  · rwa [push_of_mem hv]
  · rw [push_of_notMem hv, List.nodup_append]
    refine ⟨h, List.pairwise_singleton _ v, fun u hu w hw heq => hv ?_⟩
    rwa [← List.mem_singleton.mp hw, ← heq]

theorem prefix_foldl_push (vs : List String) :
    ∀ set : SecretSet, set.values <+: (vs.foldl push set).values := by
  induction vs with
  | nil => exact fun set => List.prefix_refl _
  | cons v vs ih => exact fun set => (prefix_push set v).trans (ih (set.push v))

theorem nodup_foldl_push (vs : List String) : ∀ {set : SecretSet}, set.values.Nodup →
    (vs.foldl push set).values.Nodup := by
  induction vs with
  | nil => exact fun h => h
  | cons v vs ih => exact fun h => ih (nodup_push h v)

/-- **What a set holds can be pushed instead of what was pushed to it.** -/
theorem foldl_push_foldl_push (set : SecretSet) (vs : List String) : ∀ other : SecretSet,
    (vs.foldl push other).values.foldl push set = vs.foldl push (other.values.foldl push set) := by
  induction vs with
  | nil => exact fun _ => rfl
  | cons v vs ih =>
    intro other
    rw [List.foldl_cons, List.foldl_cons, ih]
    congr 1
    by_cases hv : v ∈ other.values
    · -- the value was pushed with those of the other set
      rw [push_of_mem hv, push_of_mem (mem_foldl_push.mpr (Or.inr hv))]
    · rw [push_of_notMem hv, List.foldl_append]
      rfl

/-- **Extending is merging** with the set of the new values. -/
theorem extend_eq_merge_ofList (set : SecretSet) (vs : List String) :
    set.extend vs = set.merge (ofList vs) :=
  (foldl_push_foldl_push set (vs.flatMap variants) {}).symm

theorem extend_ofList (vs ws : List String) : (ofList vs).extend ws = ofList (vs ++ ws) := by
  unfold ofList extend
  rw [List.flatMap_append, List.foldl_append]

/-! ## Sets that can be made -/

/-- The sets that can be made, each with the values that were supplied for it, in order: those of a
list, all that declarations set, or those of the sensitive variables of an environment. -/
inductive Assembled : List String → SecretSet → Prop
  | ofList (values : List String) : Assembled values (ofList values)
  | ofDeclarations {declarations : List Declaration} {r : Resolution} {set : SecretSet}
      (hr : resolve declarations .empty = .ok r) (hset : ofDeclarations declarations = .ok set) :
      Assembled (r.history.filterMap fun c => match c with | .set v => some v.value | _ => none) set
  | ofEnvironment (env : Environment) :
      Assembled ((env.vars.filter (·.isSensitive)).map (·.value)) (ofEnvironment env)
  | extend {supplied : List String} {set : SecretSet} (h : Assembled supplied set)
      (values : List String) : Assembled (supplied ++ values) (set.extend values)
  | merge {supplied others : List String} {set other : SecretSet} (h : Assembled supplied set)
      (hother : Assembled others other) : Assembled (supplied ++ others) (set.merge other)

variable {supplied : List String} {set : SecretSet}

/-- **Only what was supplied counts**, not how. -/
theorem Assembled.eq_ofList (h : Assembled supplied set) : set = SecretSet.ofList supplied := by
  induction h with
  | ofList values => rfl
  | ofDeclarations hr hset =>
    rw [SecretSet.ofDeclarations, hr] at hset
    exact (Except.ok.inj hset).symm
  | ofEnvironment env => rfl
  | extend h values ih => rw [ih, extend_ofList]
  | merge h hother ih ihother => rw [ih, ihother, ← extend_eq_merge_ofList, extend_ofList]

/-- **The values of every set that can be made.** None is empty and none is there twice. A value
with line breaks comes with the variant in which each of them is written as a backslash and an `n`.
These variants and the values that were supplied, but for empty ones, are all that is there. What is
added stands behind what was there before, and it does not matter whether a set is extended by some
values or merged with the set of them. -/
theorem values_of_assembled (h : Assembled supplied set) :
    let escaped (v : String) : String :=
      String.ofList (v.toList.flatMap fun c => if c = '\n' then ['\\', 'n'] else [c])
    "" ∉ set.values ∧ set.values.Nodup ∧
    (∀ v ∈ set.values, '\n' ∈ v.toList → escaped v ∈ set.values) ∧
    (∀ w, w ∈ set.values ↔
      w ∈ supplied ∧ w ≠ "" ∨ ∃ v ∈ supplied, '\n' ∈ v.toList ∧ w = escaped v) ∧
    (∀ values, set.values <+: (set.extend values).values) ∧
    (∀ other, set.values <+: (set.merge other).values) ∧
    ∀ values, set.extend values = set.merge (ofList values) := by
  intro escaped
  have hmem : ∀ w, w ∈ set.values ↔ ∃ v ∈ supplied, w ∈ variants v := by
    intro w
    rw [h.eq_ofList, ofList, mem_extend]
    exact or_iff_right List.not_mem_nil
  refine ⟨fun hempty => ?_, ?_, fun v hv hline => ?_, fun w => ?_, fun values => ?_,
    fun other => ?_, extend_eq_merge_ofList set⟩
  · obtain ⟨v, -, hv⟩ := (hmem "").mp hempty
    exact empty_notMem_variants v hv
  · rw [h.eq_ofList]
    exact nodup_foldl_push _ List.nodup_nil
  · obtain ⟨u, hu, hvariant⟩ := (hmem v).mp hv
    exact (hmem _).mpr ⟨u, hu, escapeLines_mem_variants hvariant hline⟩
  · rw [hmem]
    simp only [mem_variants_iff]
    constructor
    · rintro ⟨v, hv, ⟨hne, rfl⟩ | ⟨hline, rfl⟩⟩
      · exact Or.inl ⟨hv, hne⟩
      · exact Or.inr ⟨v, hv, hline, rfl⟩
    · rintro (⟨hw, hne⟩ | ⟨v, hv, hline, rfl⟩)
      · exact ⟨w, hw, Or.inl ⟨hne, rfl⟩⟩
      · exact ⟨v, hv, Or.inr ⟨hline, rfl⟩⟩
  · exact prefix_foldl_push _ set
  · exact prefix_foldl_push _ set

/-- A key of two lines and nothing, a token, what two declarations set, and of two variables the
sensitive one. The escaped forms were not supplied. -/
theorem values_of_assembled_key :
    let declared := [Declaration.plain "USER" "admin", .plain "KEY" "k\ney"]
    let env := Environment.ofList [⟨"HOME", "/root", false⟩, ⟨"PIN", "12\n34", true⟩]
    let set := (((ofList ["k\ney", ""]).extend ["t"]).merge (ofList ["admin", "k\ney"])).merge
      (ofEnvironment env)
    let supplied := ["k\ney", "", "t", "admin", "k\ney", "12\n34"]
    ofDeclarations declared = .ok (ofList ["admin", "k\ney"]) ∧ Assembled supplied set ∧
    set.values = ["k\ney", "k\\ney", "t", "admin", "12\n34", "12\\n34"] ∧
    "" ∉ set.values ∧ set.values.Nodup ∧
    ("k\\ney" ∉ supplied ∧ "k\\ney" ∈ set.values) ∧
    ("12\\n34" ∉ supplied ∧ "12\\n34" ∈ set.values) ∧ "/root" ∉ set.values := by
  intro declared env set supplied
  obtain ⟨r, hr, hsupplied⟩ : ∃ r, resolve declared .empty = .ok r ∧
      r.history = [.set ⟨"USER", "admin", false⟩, .set ⟨"KEY", "k\ney", false⟩] := ⟨_, rfl, rfl⟩
  have hdeclared : ofDeclarations declared = .ok (ofList ["admin", "k\ney"]) := by
    rw [ofDeclarations, hr, Except.map, hsupplied]
    rfl
  have hother := Assembled.ofDeclarations hr hdeclared
  rw [hsupplied] at hother
  have hset : Assembled supplied set :=
    .merge (.merge (.extend (.ofList ["k\ney", ""]) ["t"]) hother) (.ofEnvironment env)
  have hvalues : set.values = ["k\ney", "k\\ney", "t", "admin", "12\n34", "12\\n34"] := by decide
  obtain ⟨hempty, hnodup, hescaped, -⟩ := values_of_assembled hset
  exact ⟨hdeclared, hset, hvalues, hempty, hnodup,
    ⟨by decide, hescaped "k\ney" (by rw [hvalues]; decide) (by decide)⟩,
    ⟨by decide, hescaped "12\n34" (by rw [hvalues]; decide) (by decide)⟩,
    by rw [hvalues]; decide⟩

end Stepwise.SecretSet
