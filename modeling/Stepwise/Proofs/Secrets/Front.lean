import Stepwise.Secrets.Redaction

/-!
# What is decided at the front of a buffer

A scan looks at the front of what is left of a buffer. This module says when a decision taken there
stays right whatever bytes come later, in this stream or in the next write.

* `le_longestMatch_iff` says what the longest match is, without the fold that computes it.
* `longestMatch_append`: where no secret could still complete, later bytes do not change the longest
  match.
* `growSpan_append`, `spanLength_append`, `move_append`: the same for the growth of a span and for
  the move of a scan.
* `scan_consumed_of_atEnd`: the last scan of a stream decides about all of it.
* `scan_append`: **a scan of a longer buffer takes all the decisions of a scan of its beginning**,
  and goes on with what that one left.
-/

namespace Stepwise.Redaction

variable {secrets : List Bytes}

/-! ## Matches at the front -/

theorem couldComplete_iff {rest : Bytes} :
    couldComplete secrets rest = true ↔ ∃ s ∈ secrets, rest.length < s.length ∧ rest <+: s := by
  simp only [couldComplete, List.any_eq_true, Bool.and_eq_true, decide_eq_true_eq,
    List.isPrefixOf_iff_prefix]

/-- A number is below a maximum iff it is below the start or below a member. -/
theorem le_foldl_max_iff {n : Nat} : ∀ {l : List Nat} {b : Nat},
    n ≤ l.foldl max b ↔ n ≤ b ∨ ∃ m ∈ l, n ≤ m
  | [], b => by simp
  | m :: l, b => by
    rw [List.foldl_cons, le_foldl_max_iff]
    have hmax : n ≤ max b m ↔ n ≤ b ∨ n ≤ m := by omega
    simp only [hmax, List.mem_cons, exists_eq_or_imp, or_assoc]

/-- **The longest match**, by the lengths that it reaches. -/
theorem le_longestMatch_iff {rest : Bytes} {n : Nat} :
    n ≤ longestMatch secrets rest ↔ n = 0 ∨ ∃ s ∈ secrets, s <+: rest ∧ n ≤ s.length := by
  unfold longestMatch
  rw [le_foldl_max_iff, Nat.le_zero]
  simp only [List.mem_map, List.mem_filter, List.isPrefixOf_iff_prefix]
  constructor
  · rintro (h | ⟨_, ⟨s, ⟨hs, hp⟩, rfl⟩, hn⟩)
    · exact Or.inl h
    · exact Or.inr ⟨s, hs, hp, hn⟩
  · rintro (h | ⟨s, hs, hp, hn⟩)
    · exact Or.inl h
    · exact Or.inr ⟨s.length, ⟨s, ⟨hs, hp⟩, rfl⟩, hn⟩

theorem length_le_longestMatch {rest s : Bytes} (hs : s ∈ secrets) (hp : s <+: rest) :
    s.length ≤ longestMatch secrets rest :=
  le_longestMatch_iff.mpr (Or.inr ⟨s, hs, hp, Nat.le_refl _⟩)

/-- A match that is not empty is the match of some secret. -/
theorem exists_longestMatch {rest : Bytes} (h : 0 < longestMatch secrets rest) :
    ∃ s ∈ secrets, s <+: rest ∧ s.length = longestMatch secrets rest := by
  obtain h0 | ⟨s, hs, hp, hle⟩ := le_longestMatch_iff.mp (Nat.le_refl (longestMatch secrets rest))
  · omega
  · exact ⟨s, hs, hp, Nat.le_antisymm (length_le_longestMatch hs hp) hle⟩

theorem longestMatch_le_length (secrets : List Bytes) (rest : Bytes) :
    longestMatch secrets rest ≤ rest.length := by
  by_cases h : 0 < longestMatch secrets rest
  · obtain ⟨s, -, hp, hlen⟩ := exists_longestMatch h
    rw [← hlen]
    exact hp.length_le
  · omega

/-! ## Later bytes -/

theorem couldComplete_append {rest : Bytes} (h : couldComplete secrets rest = false)
    (more : Bytes) : couldComplete secrets (rest ++ more) = false := by
  rw [Bool.eq_false_iff, Ne, couldComplete_iff] at h ⊢
  rintro ⟨s, hs, hlt, hp⟩
  rw [List.length_append] at hlt
  exact h ⟨s, hs, by omega, (List.prefix_append rest more).trans hp⟩

/-- A secret at the front of a buffer with more bytes was there before, or could complete there. -/
theorem prefix_of_prefix_append {rest more s : Bytes} (h : couldComplete secrets rest = false)
    (hs : s ∈ secrets) (hp : s <+: rest ++ more) : s <+: rest := by
  rw [Bool.eq_false_iff, Ne, couldComplete_iff] at h
  by_cases hlt : rest.length < s.length
  · exact absurd ⟨s, hs, hlt,
      List.prefix_of_prefix_length_le (List.prefix_append rest more) hp (by omega)⟩ h
  · exact List.prefix_of_prefix_length_le hp (List.prefix_append rest more) (by omega)

/-- **Later bytes do not change a match** where no secret could still complete. -/
theorem longestMatch_append {rest : Bytes} (h : couldComplete secrets rest = false)
    (more : Bytes) : longestMatch secrets (rest ++ more) = longestMatch secrets rest := by
  refine Nat.le_antisymm (le_longestMatch_iff.mpr ?_) (le_longestMatch_iff.mpr ?_)
  · rcases le_longestMatch_iff.mp (Nat.le_refl (longestMatch secrets (rest ++ more))) with
      h0 | ⟨s, hs, hp, hle⟩
    · exact Or.inl h0
    · exact Or.inr ⟨s, hs, prefix_of_prefix_append h hs hp, hle⟩
  · rcases le_longestMatch_iff.mp (Nat.le_refl (longestMatch secrets rest)) with
      h0 | ⟨s, hs, hp, hle⟩
    · exact Or.inl h0
    · exact Or.inr ⟨s, hs, hp.trans (List.prefix_append rest more), hle⟩

/-- The bytes that a grown span is known to take are in the buffer. -/
theorem reach_le_length {b : UInt8} {rest : Bytes} {known : Nat} (h : known ≤ rest.length) :
    max (known + 1) (longestMatch secrets (b :: rest)) - 1 ≤ rest.length := by
  have := longestMatch_le_length secrets (b :: rest)
  rw [List.length_cons] at this
  omega

/-- **A span that has stopped growing has stopped for good.** -/
theorem growSpan_append (atEnd : Bool) (more : Bytes) : ∀ {rest : Bytes} {known n : Nat},
    known ≤ rest.length → growSpan secrets false rest known = some n →
      growSpan secrets atEnd (rest ++ more) known = some n
  | [], 0, n, _, h => by
    rw [growSpan] at h ⊢
    exact h
  | _ :: _, 0, n, _, h => by
    rw [growSpan] at h ⊢
    exact h
  | [], known + 1, _, hk, _ => absurd hk (by simp)
  | b :: rest, known + 1, n, hk, h => by
    rw [List.length_cons, Nat.add_le_add_iff_right] at hk
    rw [growSpan] at h
    by_cases hc : couldComplete secrets (b :: rest) = true
    · simp [hc] at h
    · rw [Bool.not_eq_true] at hc
      rw [List.cons_append, growSpan, ← List.cons_append, couldComplete_append hc,
        longestMatch_append hc]
      simp only [hc, Bool.and_false, Bool.false_eq_true, if_false, Option.map_eq_some_iff] at h ⊢
      obtain ⟨m, hm, rfl⟩ := h
      exact ⟨m, growSpan_append atEnd more (reach_le_length hk) hm, rfl⟩

theorem spanLength_append {buffer : Bytes} (atEnd : Bool) (more : Bytes) {length n : Nat}
    (hle : length ≤ buffer.length) (hb : buffer ≠ [])
    (h : spanLength secrets false buffer length = some n) :
    spanLength secrets atEnd (buffer ++ more) length = some n := by
  cases buffer with
  | nil => exact absurd rfl hb
  | cons b rest =>
    rw [List.length_cons] at hle
    simp only [List.cons_append, spanLength, Option.map_eq_some_iff] at h ⊢
    obtain ⟨m, hm, rfl⟩ := h
    exact ⟨m, growSpan_append atEnd more (by omega) hm, rfl⟩

/-- **A move that is not a wait stays right** whatever comes later. -/
theorem move_append {buffer : Bytes} (atEnd : Bool) (more : Bytes) (hb : buffer ≠ [])
    (h : move secrets false buffer ≠ .wait) :
    move secrets atEnd (buffer ++ more) = move secrets false buffer := by
  unfold move at h ⊢
  by_cases hc : couldComplete secrets buffer = true
  · simp [hc] at h
  · rw [Bool.not_eq_true] at hc
    simp only [hc, couldComplete_append hc, longestMatch_append hc, Bool.and_false,
      Bool.false_eq_true, if_false] at h ⊢
    cases hm : longestMatch secrets buffer with
    | zero => rfl
    | succ n =>
      have hle : n + 1 ≤ buffer.length := hm ▸ longestMatch_le_length secrets buffer
      cases hs : spanLength secrets false buffer (n + 1) with
      | none => simp [hm, hs] at h
      | some length => simp only [spanLength_append atEnd more hle hb hs, hs]

/-! ## How far a move goes -/

/-- A span grows inside the buffer, and takes at least what is known of it. -/
theorem growSpan_bounds {atEnd : Bool} : ∀ {rest : Bytes} {known n : Nat},
    known ≤ rest.length → growSpan secrets atEnd rest known = some n → known ≤ n ∧ n ≤ rest.length
  | [], 0, n, _, h => by
    rw [growSpan, Option.some.injEq] at h
    exact ⟨Nat.zero_le n, by simp [← h]⟩
  | _ :: _, 0, n, _, h => by
    rw [growSpan, Option.some.injEq] at h
    exact ⟨Nat.zero_le n, by simp [← h]⟩
  | [], known + 1, _, hk, _ => absurd hk (by simp)
  | b :: rest, known + 1, n, hk, h => by
    rw [List.length_cons, Nat.add_le_add_iff_right] at hk
    rw [growSpan] at h
    split at h
    · exact absurd h (by simp)
    · obtain ⟨m, hm, rfl⟩ := Option.map_eq_some_iff.mp h
      have := growSpan_bounds (reach_le_length hk) hm
      rw [List.length_cons]
      omega

/-- **A hidden span** is a grown match at the front: it takes the longest match and ends in the
buffer. -/
theorem move_hide {atEnd : Bool} {b : UInt8} {rest : Bytes} {extra : Nat}
    (h : move secrets atEnd (b :: rest) = .hide extra) :
    ∃ n, longestMatch secrets (b :: rest) = n + 1 ∧ growSpan secrets atEnd rest n = some extra ∧
      n ≤ extra ∧ extra ≤ rest.length := by
  unfold move at h
  split at h
  · exact absurd h (by simp)
  · split at h
    · exact absurd h (by simp)
    · rename_i n hn
      have hle : n ≤ rest.length := by
        have := longestMatch_le_length secrets (b :: rest)
        rw [hn, List.length_cons] at this
        omega
      split at h
      · rename_i length hs
        obtain ⟨m, hm, rfl⟩ := Option.map_eq_some_iff.mp hs
        obtain rfl : m = extra := by simpa using h
        exact ⟨n, hn, hm, growSpan_bounds hle hm⟩
      · exact absurd h (by simp)

/-- At the end of the stream no span waits for more. -/
theorem growSpan_isSome_of_atEnd : ∀ (rest : Bytes) (known : Nat),
    (growSpan secrets true rest known).isSome = true
  | _, 0 => by rw [growSpan]; rfl
  | [], _ + 1 => by rw [growSpan]; rfl
  | b :: rest, known + 1 => by
    rw [growSpan]
    simp [growSpan_isSome_of_atEnd rest]

theorem move_ne_wait_of_atEnd (buffer : Bytes) : move secrets true buffer ≠ .wait := by
  unfold move
  simp only [Bool.not_true, Bool.false_and, Bool.false_eq_true, if_false]
  split
  · simp
  · rename_i n _
    have hsome : (spanLength secrets true buffer (n + 1)).isSome = true := by
      cases buffer with
      | nil => rfl
      | cons b rest => simp [spanLength, growSpan_isSome_of_atEnd]
    obtain ⟨length, hlength⟩ := Option.isSome_iff_exists.mp hsome
    simp [hlength]

/-! ## Scans -/

@[simp]
theorem scan_nil (atEnd : Bool) : scan secrets atEnd [] = ⟨[], 0⟩ := by rw [scan]

/-- A scan waits, forwards or hides at the front, and goes on behind it. -/
theorem scan_wait {atEnd : Bool} {b : UInt8} {rest : Bytes}
    (h : move secrets atEnd (b :: rest) = .wait) : scan secrets atEnd (b :: rest) = ⟨[], 0⟩ := by
  rw [scan, h]

theorem scan_forward {atEnd : Bool} {b : UInt8} {rest : Bytes}
    (h : move secrets atEnd (b :: rest) = .forward) :
    scan secrets atEnd (b :: rest) =
      ⟨b :: (scan secrets atEnd rest).output, (scan secrets atEnd rest).consumed + 1⟩ := by
  rw [scan, h]

theorem scan_hide {atEnd : Bool} {b : UInt8} {rest : Bytes} {extra : Nat}
    (h : move secrets atEnd (b :: rest) = .hide extra) :
    scan secrets atEnd (b :: rest) =
      ⟨replacement (b :: rest.take extra) ++ (scan secrets atEnd (rest.drop extra)).output,
        (scan secrets atEnd (rest.drop extra)).consumed + (extra + 1)⟩ := by
  rw [scan, h]

theorem scan_consumed_le (atEnd : Bool) (buffer : Bytes) :
    (scan secrets atEnd buffer).consumed ≤ buffer.length := by
  match buffer with
  | [] => simp
  | b :: rest =>
    cases hm : move secrets atEnd (b :: rest) with
    | wait => simp [scan_wait hm]
    | forward =>
      rw [scan_forward hm, List.length_cons]
      exact Nat.succ_le_succ (scan_consumed_le atEnd rest)
    | hide extra =>
      obtain ⟨_, -, -, -, hle⟩ := move_hide hm
      have ih := scan_consumed_le atEnd (rest.drop extra)
      rw [scan_hide hm, List.length_cons]
      rw [List.length_drop] at ih
      simp only
      omega
termination_by buffer.length

/-- **The last scan of a stream decides about all of it.** -/
theorem scan_consumed_of_atEnd (buffer : Bytes) :
    (scan secrets true buffer).consumed = buffer.length := by
  match buffer with
  | [] => simp
  | b :: rest =>
    cases hm : move secrets true (b :: rest) with
    | wait => exact absurd hm (move_ne_wait_of_atEnd _)
    | forward => rw [scan_forward hm, List.length_cons, scan_consumed_of_atEnd rest]
    | hide extra =>
      obtain ⟨_, -, -, -, hle⟩ := move_hide hm
      have ih := scan_consumed_of_atEnd (rest.drop extra)
      rw [List.length_drop] at ih
      rw [scan_hide hm, List.length_cons]
      simp only
      omega
termination_by buffer.length

/-- Without secrets all bytes are forwarded. -/
theorem scan_no_secrets (atEnd : Bool) : ∀ buffer : Bytes,
    scan [] atEnd buffer = ⟨buffer, buffer.length⟩
  | [] => scan_nil atEnd
  | b :: rest => by
    have hm : move [] atEnd (b :: rest) = .forward := by
      simp [move, couldComplete, longestMatch]
    rw [scan_forward hm, scan_no_secrets atEnd rest, List.length_cons]

/-- **A scan of a longer buffer** takes all the decisions of a scan of its beginning, and then scans
what that one left with what follows. -/
theorem scan_append (atEnd : Bool) (more buffer : Bytes) :
    scan secrets atEnd (buffer ++ more) =
      ⟨(scan secrets false buffer).output ++
          (scan secrets atEnd (buffer.drop (scan secrets false buffer).consumed ++ more)).output,
        (scan secrets false buffer).consumed +
          (scan secrets atEnd
            (buffer.drop (scan secrets false buffer).consumed ++ more)).consumed⟩ := by
  match buffer with
  | [] => simp
  | b :: rest =>
    have hb : b :: rest ≠ [] := by simp
    cases hm : move secrets false (b :: rest) with
    | wait => simp [scan_wait hm]
    | forward =>
      have hne : move secrets false (b :: rest) ≠ .wait := by simp [hm]
      have hstable := move_append atEnd more hb hne
      rw [hm, List.cons_append] at hstable
      rw [scan_forward hm, List.cons_append, scan_forward hstable, scan_append atEnd more rest]
      simp only [List.drop_succ_cons, List.cons_append, Decision.mk.injEq, true_and]
      omega
    | hide extra =>
      have hne : move secrets false (b :: rest) ≠ .wait := by simp [hm]
      have hstable := move_append atEnd more hb hne
      rw [hm, List.cons_append] at hstable
      obtain ⟨_, -, -, -, hle⟩ := move_hide hm
      rw [scan_hide hm, List.cons_append, scan_hide hstable, List.take_append_of_le_length hle,
        List.drop_append_of_le_length hle, scan_append atEnd more (rest.drop extra)]
      simp only [← Nat.add_assoc, List.drop_succ_cons, List.drop_drop, List.append_assoc,
        Decision.mk.injEq]
      rw [Nat.add_comm extra]
      exact ⟨rfl, by omega⟩
termination_by buffer.length

end Stepwise.Redaction
