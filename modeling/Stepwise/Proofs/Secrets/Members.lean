import Stepwise.Secrets.Set

/-!
# What is in a set of secrets

Sets are made by adding values one by one, and a value that is there already is not added again. For
membership neither the order nor the repetition counts.

* `mem_extend`, `mem_merge`: the values of a set that is extended or merged.
* `mem_ofList`: a set has all the values that it is made of, unless they are empty.
-/

namespace Stepwise.SecretSet

theorem push_of_mem {set : SecretSet} {v : String} (h : v ∈ set.values) : set.push v = set :=
  if_pos (decide_eq_true h)

theorem push_of_notMem {set : SecretSet} {v : String} (h : v ∉ set.values) :
    set.push v = ⟨set.values ++ [v]⟩ :=
  if_neg fun hmem => h (of_decide_eq_true hmem)

theorem mem_push {set : SecretSet} {v w : String} :
    w ∈ (set.push v).values ↔ w ∈ set.values ∨ w = v := by
  by_cases hv : v ∈ set.values
  · rw [push_of_mem hv]
    exact ⟨Or.inl, fun h => h.elim id fun he => he ▸ hv⟩
  · rw [push_of_notMem hv, List.mem_append, List.mem_singleton]

theorem mem_foldl_push {vs : List String} {w : String} : ∀ {set : SecretSet},
    w ∈ (vs.foldl push set).values ↔ w ∈ set.values ∨ w ∈ vs := by
  induction vs with
  | nil => simp
  | cons v vs ih =>
    intro set
    rw [List.foldl_cons, ih, mem_push, List.mem_cons, or_assoc]

/-- A set that is extended has its values, and the variants of the new ones. -/
theorem mem_extend {set : SecretSet} {vs : List String} {w : String} :
    w ∈ (set.extend vs).values ↔ w ∈ set.values ∨ ∃ v ∈ vs, w ∈ variants v := by
  unfold extend
  rw [mem_foldl_push, List.mem_flatMap]

theorem mem_merge {set other : SecretSet} {w : String} :
    w ∈ (set.merge other).values ↔ w ∈ set.values ∨ w ∈ other.values :=
  mem_foldl_push

/-- A value that is not empty is a variant of itself. -/
theorem mem_variants_self {v : String} (h : v ≠ "") : v ∈ variants v := by
  unfold variants
  rw [if_neg h]
  split <;> exact List.mem_cons_self

theorem mem_ofList {vs : List String} {v : String} (hv : v ∈ vs) (h : v ≠ "") :
    v ∈ (ofList vs).values :=
  mem_extend.mpr (Or.inr ⟨v, hv, mem_variants_self h⟩)

end Stepwise.SecretSet
