import Mathlib.Tactic.ByContra
import Stepwise.Proofs.Secrets.Pieces
import Stepwise.Proofs.Secrets.Stream

/-!
# How much a stream holds back

What an open stream holds back begins where its scan waits. Either the bytes there are the beginning
of a secret, or a span has begun there and a secret that starts inside it could still complete. A
span is replaced as a whole, so all of it is held until its end is known, however far overlapping
secrets carry it.

* `ReachesOver`: a chain of occurrences leads from the front over a position.
* `growSpan_eq_none`, `exists_of_move_wait`: what a wait at the front says about the bytes there.
* `move_held`: what is held makes a scan wait.
* `exists_chain_held`: **what is held is a chain, and after it the beginning of a secret**.
* `Overlapping`: a secret ends as another one, or itself, begins; only then can a chain be held.
* `held_replicate`: a stream of one byte is held as a whole if the byte twice is a secret.
* `Redactor.pending_bounded`: **the bound on what a redactor holds**.
-/

namespace Stepwise

namespace Redaction

variable (secrets : List Bytes) (input : Bytes)

/-- A chain of linked occurrences leads from the front of the input over position `i`: each position
before `i` lies in one of them, and one goes on over `i`. -/
def ReachesOver (i : Nat) : Prop :=
  ∃ o, Occurs secrets input o ∧ o.start = 0 ∧
    (∀ k < i, ∃ p, Linked secrets input o p ∧ p.Holds k) ∧
    ∃ p, Linked secrets input o p ∧ p.start < i ∧ i < p.stop

/-- Some bytes at the end of a secret are those at the beginning of a secret, of another one or of
the same, and neither of the two is all of those bytes. -/
def Overlapping : Prop :=
  ∃ s ∈ secrets, ∃ t ∈ secrets, ∃ n < s.length, 0 < n ∧ n < t.length ∧
    s.drop (s.length - n) = t.take n

instance : Decidable (Overlapping secrets) :=
  inferInstanceAs (Decidable (∃ s ∈ secrets, ∃ t ∈ secrets, ∃ n < s.length,
    0 < n ∧ n < t.length ∧ s.drop (s.length - n) = t.take n))

variable {secrets input}

/-! ## Where a scan waits -/

/-- **A span that waits.** Let an occurrence that is linked to `o` start before position `j` and end
`known` bytes after it. If the span that grows from it waits at `j` or later, a secret could still
complete at some position `k`, and occurrences linked to `o` hold all positions up to it and go on
over it. -/
theorem growSpan_eq_none {o : Span} (ho : Occurs secrets input o) {rest : Bytes} {known j : Nat}
    (hrest : input.drop j = rest)
    (hlast : ∃ p, Linked secrets input o p ∧ p.start < j ∧ p.stop = j + known)
    (h : growSpan secrets false rest known = none) :
    ∃ k, j ≤ k ∧ couldComplete secrets (input.drop k) = true ∧
      (∃ p, Linked secrets input o p ∧ p.start < k ∧ k < p.stop) ∧
      ∀ i, j ≤ i → i < k → ∃ p, Linked secrets input o p ∧ p.Holds i := by
  induction rest generalizing known j with
  | nil => cases known <;> simp [growSpan] at h
  | cons b rest ih =>
    cases known with
    | zero => simp [growSpan] at h
    | succ known =>
      obtain ⟨p, hp, hpstart, hpstop⟩ := hlast
      rw [growSpan, Bool.not_false, Bool.true_and] at h
      by_cases hc : couldComplete secrets (b :: rest) = true
      · rw [← hrest] at hc
        exact ⟨j, Nat.le_refl j, hc, ⟨p, hp, hpstart, by omega⟩, fun i h1 h2 => by omega⟩
      · rw [if_neg hc, Option.map_eq_none_iff] at h
        have hnext := exists_linked_reach ho hrest hp hpstart hpstop
        obtain ⟨k, hjk, hk, hover, hheld⟩ := ih (drop_succ_of_drop_eq hrest).symm hnext h
        refine ⟨k, by omega, hk, hover, fun i h1 h2 => ?_⟩
        by_cases hi : i = j
        · exact ⟨p, hp, by omega, by omega⟩
        · exact hheld i (by omega) h2

/-- **A wait at the front**: from some position on the input is the beginning of a secret, and a
chain leads from the front over that position, unless it is the front. -/
theorem exists_of_move_wait (h : move secrets false input = .wait) :
    ∃ i, couldComplete secrets (input.drop i) = true ∧ (0 < i → ReachesOver secrets input i) := by
  unfold move at h
  by_cases hc : couldComplete secrets input = true
  · exact ⟨0, hc, fun h0 => absurd h0 (Nat.lt_irrefl 0)⟩
  · simp only [Bool.not_false, Bool.true_and, if_neg hc] at h
    split at h
    · exact absurd h nofun
    · rename_i n hlong
      split at h
      · exact absurd h nofun
      · rename_i hnone
        have ho : Occurs secrets input ⟨0, n + 1⟩ := by
          have hocc := @occurs_of_longestMatch secrets input 0
          rw [List.drop_zero, hlong, Nat.zero_add] at hocc
          exact hocc (Nat.succ_pos n)
        cases input with
        | nil => exact absurd ho.stop_le (by simp)
        | cons b rest =>
          rw [spanLength, Option.map_eq_none_iff] at hnone
          obtain ⟨k, hk, hcould, hover, hheld⟩ := growSpan_eq_none (j := 1) ho rfl
            ⟨_, Relation.ReflTransGen.refl, Nat.zero_lt_one, Nat.add_comm n 1⟩ hnone
          refine ⟨k, hcould, fun _ => ⟨_, ho, rfl, fun i hi => ?_, hover⟩⟩
          by_cases h0 : i = 0
          · exact ⟨_, Relation.ReflTransGen.refl, by simp [Span.Holds, h0]⟩
          · exact hheld i (by omega) hi

/-! ## What is held -/

/-- What is held is not decided by another scan. -/
theorem scan_held_consumed (secrets : List Bytes) (written : Bytes) :
    (scan secrets false (held secrets written)).consumed = 0 := by
  have hagain : held secrets written =
      (held secrets written).drop (scan secrets false (held secrets written)).consumed := by
    have happend := held_append secrets written []
    rw [List.append_nil, List.append_nil] at happend
    exact happend
  have hlength := congrArg List.length hagain
  rw [List.length_drop] at hlength
  have hle : (scan secrets false (held secrets written)).consumed ≤ (held secrets written).length :=
    scan_consumed_le false _
  omega

/-- **What is held makes a scan wait.** -/
theorem move_held {written : Bytes} (h : held secrets written ≠ []) :
    move secrets false (held secrets written) = .wait := by
  have hzero := scan_held_consumed secrets written
  cases hheld : held secrets written with
  | nil => exact absurd hheld h
  | cons b rest =>
    rw [hheld] at hzero
    cases hm : move secrets false (b :: rest) with
    | wait => rfl
    | forward =>
      rw [scan_forward hm] at hzero
      exact absurd hzero (Nat.succ_ne_zero _)
    | hide extra =>
      rw [scan_hide hm] at hzero
      exact absurd hzero (Nat.succ_ne_zero _)

/-- **What is held is a chain, and after it the beginning of a secret** that goes on. -/
theorem exists_chain_held (secrets : List Bytes) (written : Bytes) :
    ∃ chain tail, held secrets written = chain ++ tail ∧
      (held secrets written ≠ [] → ∃ s ∈ secrets, tail.length < s.length ∧ tail <+: s) ∧
      (chain ≠ [] → ReachesOver secrets (held secrets written) chain.length) := by
  by_cases h : held secrets written = []
  · exact ⟨[], [], h, fun hne => absurd h hne, fun hne => absurd rfl hne⟩
  · obtain ⟨i, hcould, hchain⟩ := exists_of_move_wait (move_held h)
    refine ⟨(held secrets written).take i, (held secrets written).drop i,
      (List.take_append_drop i _).symm, fun _ => couldComplete_iff.mp hcould, fun hne => ?_⟩
    have hi : 0 < i := Nat.pos_of_ne_zero fun h0 => hne (by rw [h0, List.take_zero])
    obtain ⟨o, ho, hstart, hheld, p, hp, hpi, hip⟩ := hchain hi
    have hlength : ((held secrets written).take i).length = i := by
      have := (hp.occurs ho).stop_le
      rw [List.length_take]
      omega
    rw [hlength]
    exact hchain hi

/-! ## When a chain can be held -/

/-- **A chain over the beginning of a secret** needs a secret that ends as that one begins. -/
theorem ReachesOver.overlapping {i : Nat} (h : ReachesOver secrets input i) {t : Bytes}
    (ht : t ∈ secrets) (hlt : (input.drop i).length < t.length) (hbegin : input.drop i <+: t) :
    Overlapping secrets := by
  obtain ⟨o, ho, -, -, p, hp, hstart, hstop⟩ := h
  have hle := (hp.occurs ho).stop_le
  obtain ⟨s, hs, -, hps, hpstop⟩ := hp.occurs ho
  rw [List.length_drop] at hlt
  refine ⟨s, hs, t, ht, p.stop - i, by omega, by omega, by omega, ?_⟩
  have hfront : s.length - (p.stop - i) = i - p.start := by omega
  calc s.drop (s.length - (p.stop - i))
      = ((input.drop p.start).take s.length).drop (i - p.start) := by
        rw [hfront, ← List.prefix_iff_eq_take.mp hps]
    _ = (input.drop i).take (p.stop - i) := by
        rw [List.drop_take, List.drop_drop, Nat.add_sub_cancel' (Nat.le_of_lt hstart)]
        congr 1
        omega
    _ = t.take (p.stop - i) := by
        rw [List.prefix_iff_eq_take.mp hbegin, List.take_take, List.length_drop]
        congr 1
        omega

/-! ## A stream that is held as a whole -/

theorem longestMatch_replicate (b : UInt8) (n : Nat) :
    longestMatch [[b, b]] (List.replicate (n + 2) b) = 2 := by
  simp [longestMatch, List.replicate_succ]

theorem couldComplete_replicate (b : UInt8) (n : Nat) :
    couldComplete [[b, b]] (List.replicate (n + 2) b) = false := by
  have hlt : ¬ n + 2 < 2 := by omega
  simp [couldComplete, hlt]

/-- Each byte of the stream takes the span one byte further, and after the last one it waits. -/
theorem growSpan_replicate (b : UInt8) : ∀ n : Nat,
    growSpan [[b, b]] false (List.replicate (n + 1) b) 1 = none
  | 0 => by simp [growSpan, couldComplete]
  | n + 1 => by
    have hnot := couldComplete_replicate b n
    have hlong := longestMatch_replicate b n
    rw [List.replicate_succ] at hnot hlong
    rw [List.replicate_succ, growSpan, hnot, hlong]
    simpa using growSpan_replicate b n

/-- **A stream of one byte is held as a whole**, however long it is, if the byte twice is a
secret. -/
theorem held_replicate (b : UInt8) (n : Nat) :
    held [[b, b]] (List.replicate n b) = List.replicate n b := by
  have hwait : ∀ m, move [[b, b]] false (List.replicate (m + 1) b) = .wait := by
    intro m
    cases m with
    | zero => simp [move, couldComplete]
    | succ m =>
      have hspan : spanLength [[b, b]] false (List.replicate (m + 2) b) 2 = none :=
        Option.map_eq_none_iff.mpr (growSpan_replicate b m)
      rw [move, couldComplete_replicate, longestMatch_replicate]
      simp [hspan]
  cases n with
  | zero => simp
  | succ m =>
    have hm := hwait m
    rw [List.replicate_succ] at hm ⊢
    rw [held, scan_wait hm, List.drop_zero]

end Redaction

theorem SecretSet.length_le_maxLength {set : SecretSet} {s : Bytes} (hs : s ∈ set.bytes) :
    s.length ≤ set.maxLength :=
  Redaction.le_foldl_max_iff.mpr (Or.inr ⟨s.length, List.mem_map_of_mem hs, Nat.le_refl _⟩)

namespace Redactor

open Redaction (held ReachesOver Overlapping)

/-- What a redactor holds after calls is what has to be held of the bytes written since the last
close. -/
theorem pending_run (set : SecretSet) (calls : List Call) :
    (Redactor.run { secrets := set.bytes } calls).1.pending =
      held set.bytes ((Ledger.start set).run calls).current.written := by
  have hsettled := Ledger.settled_run (Ledger.settled_start set) calls
  rw [← hsettled.pending_eq, ((Ledger.start set).run_account calls).1]
  rfl

/-- **The bound on what a redactor holds.** Without secrets nothing is held. What is held after any
calls is a chain of overlapping secrets from its front on, and after it less than the longest secret
has; a chain is held only as long as it reaches over what comes after it. So less than the longest
secret is held where no secret stands at the front of what is held, and always if no secret ends as
a secret begins. -/
theorem pending_bounded (set : SecretSet) (calls : List Call) :
    let pending := (Redactor.run { secrets := set.bytes } calls).1.pending
    (set.values = [] → pending = []) ∧
    (∃ chain tail, pending = chain ++ tail ∧ tail.length ≤ set.maxLength - 1 ∧
      (chain ≠ [] → ReachesOver set.bytes pending chain.length)) ∧
    ((∀ s ∈ set.bytes, s ≠ [] → ¬ s <+: pending) → pending.length ≤ set.maxLength - 1) ∧
    (¬ Overlapping set.bytes → pending.length ≤ set.maxLength - 1) := by
  intro pending
  have hpending := pending_run set calls
  obtain ⟨chain, tail, hsplit, htail, hchain⟩ :=
    Redaction.exists_chain_held set.bytes ((Ledger.start set).run calls).current.written
  rw [← hpending] at hsplit htail hchain
  have hbound : tail.length ≤ set.maxLength - 1 := by
    by_cases hne : pending = []
    · have hnil : chain ++ tail = [] := hsplit.symm.trans hne
      simp [(List.append_eq_nil_iff.mp hnil).2]
    · obtain ⟨s, hs, hlt, -⟩ := htail hne
      have := SecretSet.length_le_maxLength hs
      omega
  have hbare : chain = [] → pending.length ≤ set.maxLength - 1 := fun h => by
    rw [show pending = tail from hsplit.trans (by rw [h, List.nil_append])]
    exact hbound
  refine ⟨fun hempty => ?_, ⟨chain, tail, hsplit, hbound, hchain⟩, fun hfront => ?_, fun hnot => ?_⟩
  · rw [show pending = held set.bytes _ from hpending, SecretSet.bytes, hempty, List.map_nil,
      Redaction.held_no_secrets]
  · by_contra hlong
    obtain ⟨o, ⟨s, hs, hne, hbegin, -⟩, hstart, -⟩ := hchain (mt hbare hlong)
    rw [hstart, List.drop_zero] at hbegin
    exact hfront s hs hne hbegin
  · by_contra hlong
    have hreach := hchain (mt hbare hlong)
    have hne : pending ≠ [] := fun hnil => by simp [hnil] at hlong
    obtain ⟨t, ht, hlt, hbegin⟩ := htail hne
    have hdrop : pending.drop chain.length = tail := by
      rw [show pending = _ from hsplit, List.drop_left]
    rw [← hdrop] at hlt hbegin
    exact hnot (hreach.overlapping ht hlt hbegin)

/-- Of a secret that overlaps nothing, all but the last byte is held, and no more. -/
theorem pending_bounded_token :
    let set : SecretSet := ⟨["abcdef"]⟩
    let pending :=
      (Redactor.run { secrets := set.bytes } [.write (Utf8.encode "xxxxabcde")]).1.pending
    ¬ Overlapping set.bytes ∧ set.maxLength = 6 ∧ pending.length ≤ 5 := by
  intro set pending
  have hnot : ¬ Overlapping set.bytes := by decide +kernel
  have hmax : set.maxLength = 6 := by decide +kernel
  have hbound := (pending_bounded set [.write (Utf8.encode "xxxxabcde")]).2.2.2 hnot
  rw [hmax] at hbound
  exact ⟨hnot, hmax, hbound⟩

/-- **A secret that overlaps itself** makes a redactor hold more than any secret has. -/
theorem pending_exceeds_longest :
    let set := SecretSet.ofList ["aa"]
    let pending :=
      (Redactor.run { secrets := set.bytes } [.write (Utf8.encode "aaaaaaaa")]).1.pending
    set.maxLength = 2 ∧ pending.length = 8 := by
  intro set pending
  have hbytes : set.bytes = [[97, 97]] := by decide +kernel
  have hwritten : ((Ledger.start set).run [.write (Utf8.encode "aaaaaaaa")]).current.written =
      List.replicate 8 97 := by decide +kernel
  have hpending : pending = List.replicate 8 97 := by
    rw [show pending = _ from pending_run set _, hwritten, hbytes, Redaction.held_replicate]
  exact ⟨by decide +kernel, by rw [hpending, List.length_replicate]⟩

end Redactor

end Stepwise
