import Stepwise.Proofs.Secrets.Pieces
import Stepwise.Proofs.Secrets.Stream

/-!
# No secret is shown

A secret is hidden where it stands in the input. It could still show up in the output, across the
place where another one was hidden: `Unmarked` says for which secrets this cannot be, because they
share no byte with the marker and are not the line break that marks are separated by.

* `infix_of_infix_marks`: such a secret stands in a text before the marks of a span or after them,
  never across them.
* `Tiles.not_infix`: no row of pieces shows such a secret.
* `redact_of_not_infix`: where no secret stands, nothing is hidden.
* `Redactor.forwarded_hides`: **what a stream forwarded shows no such secret**, at any moment and
  after the close. If all secrets are such, its output is not redacted any further.
-/

namespace Stepwise

namespace Redaction

/-- A secret that the marks of a span cannot show in part. -/
structure Unmarked (s : Bytes) : Prop where
  not_mem : ∀ b ∈ marker, b ∉ s
  ne_newline : s ≠ [newline]

-- the test goes through the bytes of the marker, not through all bytes
instance (s : Bytes) : Decidable (Unmarked s) :=
  @decidable_of_iff _ ((∀ b ∈ marker, b ∉ s) ∧ s ≠ [newline])
    ⟨fun h => ⟨h.1, h.2⟩, fun h => ⟨h.not_mem, h.ne_newline⟩⟩
    (@instDecidableAnd _ _ (List.decidableBAll (· ∉ s) marker) inferInstance)

/-! ## Across the marks -/

/-- A string that does not hold a byte stands before it or after it. -/
theorem infix_of_infix_append_cons {s before after : Bytes} {b : UInt8} (hb : b ∉ s)
    (h : s <:+: before ++ b :: after) : s <:+: before ∨ s <:+: after := by
  -- a beginning of what starts with `b` is empty
  have hnil : ∀ t, b ∉ t → t <+: b :: after → t = [] := by
    intro t ht hp
    rcases List.prefix_cons_iff.mp hp with rfl | ⟨u, rfl, -⟩
    · rfl
    · exact absurd List.mem_cons_self ht
  rcases List.infix_append_iff.mp h with h | h | ⟨t, u, rfl, ht, hu⟩
  · exact Or.inl h
  · rcases List.infix_cons_iff.mp h with hp | h
    · rw [hnil s hb hp]
      exact Or.inr List.nil_infix
    · exact Or.inr h
  · rw [hnil u (fun hmem => hb (List.mem_append_right t hmem)) hu, List.append_nil]
    exact Or.inl ht.isInfix

/-- The same for a block of bytes none of which the string holds. -/
theorem infix_of_infix_append_block {s block after : Bytes} (hne : block ≠ []) :
    ∀ {before : Bytes}, (∀ b ∈ block, b ∉ s) → s <:+: before ++ block ++ after →
      s <:+: before ∨ s <:+: after := by
  induction block with
  | nil => exact absurd rfl hne
  | cons b block ih =>
    intro before hs h
    rw [List.append_assoc, List.cons_append] at h
    rcases infix_of_infix_append_cons (hs b List.mem_cons_self) h with h | h
    · exact Or.inl h
    · cases block with
      | nil => exact Or.inr h
      | cons c block =>
        have hnil : s <:+: [] ++ c :: block ++ after := h
        rcases ih (by simp) (fun d hd => hs d (List.mem_cons_of_mem _ hd)) hnil with h | h
        · exact Or.inl (h.trans List.nil_infix)
        · exact Or.inr h

/-- **No secret stands across the marks of a span**, if it is unmarked. -/
theorem infix_of_infix_marks {s : Bytes} (hs : Unmarked s) {after : Bytes} :
    ∀ {newlines before : Bytes}, (∀ b ∈ newlines, b = newline) →
      s <:+: before ++ (marker ++ newlines.flatMap fun b => b :: marker) ++ after →
      s <:+: before ∨ s <:+: after
  | [], before, _, h => by
    rw [List.flatMap_nil, List.append_nil] at h
    exact infix_of_infix_append_block marker_ne_nil hs.not_mem h
  | b :: newlines, before, hall, h => by
    obtain rfl := hall b List.mem_cons_self
    have hmarks : s <:+: before ++ marker ++
        ([newline] ++ (marker ++ newlines.flatMap fun b => b :: marker) ++ after) := by
      simpa using h
    rcases infix_of_infix_append_block marker_ne_nil hs.not_mem hmarks with h | h
    · exact Or.inl h
    · rcases infix_of_infix_marks hs (fun c hc => hall c (List.mem_cons_of_mem _ hc)) h with h | h
      · rcases List.infix_cons_iff.mp h with hp | hnil
        · rcases List.prefix_cons_iff.mp hp with rfl | ⟨t, rfl, ht⟩
          · exact Or.inl List.nil_infix
          · rw [List.prefix_nil.mp ht] at hs
            exact absurd rfl hs.ne_newline
        · exact Or.inl (hnil.trans List.nil_infix)
      · exact Or.inr h

/-! ## What pieces show -/

variable {secrets : List Bytes} {input : Bytes}

/-- A stretch of the input that is not covered holds no secret. -/
theorem not_infix_of_not_covered {s : Bytes} (hs : s ∈ secrets) (hne : s ≠ []) {i j : Nat}
    (hnot : ∀ k, i ≤ k → k < j → ¬ Covered secrets input k) :
    ¬ s <:+: (input.drop i).take (j - i) := by
  rintro ⟨before, after, h⟩
  have hpos := List.length_pos_iff.mpr hne
  have hlen := congrArg List.length h
  simp only [List.length_append, List.length_take, List.length_drop] at hlen
  have hprefix : s <+: input.drop (i + before.length) := by
    have htake : before ++ s <+: input.drop i :=
      (List.prefix_append _ after).trans (h ▸ List.take_prefix _ _)
    obtain ⟨rest, hrest⟩ := htake
    refine ⟨rest, ?_⟩
    rw [← List.drop_drop, ← hrest, List.append_assoc, List.drop_left]
  have hoccurs : Occurs secrets input ⟨i + before.length, i + before.length + s.length⟩ :=
    ⟨s, hs, hne, hprefix, rfl⟩
  exact hnot (i + before.length) (by omega) (by omega) (hoccurs.covered hoccurs.holds_start)

/-- **Pieces show no unmarked secret**, also not together with a stretch right before them that is
not covered. -/
theorem Tiles.not_infix {s : Bytes} (hs : s ∈ secrets) (hne : s ≠ []) (hu : Unmarked s) {j : Nat}
    {ps : List Piece} (h : Tiles secrets input j ps) : ∀ i ≤ j,
      (∀ k, i ≤ k → k < j → ¬ Covered secrets input k) →
      ¬ s <:+: (input.drop i).take (j - i) ++ ps.flatMap (Piece.shown input) := by
  induction h with
  | done =>
    intro i _ hnot hin
    rw [List.flatMap_nil, List.append_nil] at hin
    exact not_infix_of_not_covered hs hne hnot hin
  | @keep j ps hlt hj _ ih =>
    intro i hij hnot hin
    refine ih i (by omega) (fun k hik hk => ?_) ?_
    · by_cases hkj : k = j
      · exact hkj ▸ hj
      · exact hnot k hik (by omega)
    · have hstep : (input.drop i).take (j + 1 - i) =
          (input.drop i).take (j - i) ++ input[j]?.toList := by
        rw [Nat.succ_sub hij, List.take_add_one, List.getElem?_drop, Nat.add_sub_cancel' hij]
      rw [hstep, List.append_assoc]
      exact hin
  | @hide span ps hspan _ ih =>
    intro i _ hnot hin
    rw [List.flatMap_cons, ← List.append_assoc] at hin
    have hnewlines : ∀ b ∈ (span.bytes input).dropLast.filter (· = newline), b = newline :=
      fun b hb => of_decide_eq_true (List.mem_filter.mp hb).2
    rcases infix_of_infix_marks hu hnewlines hin with hin | hin
    · exact not_infix_of_not_covered hs hne hnot hin
    · refine ih span.stop (Nat.le_refl _) (fun k h1 h2 => absurd h2 (by omega)) ?_
      simpa using hin

/-- The redacted input shows no unmarked secret. -/
theorem not_infix_redact {s : Bytes} (hs : s ∈ secrets) (hne : s ≠ []) (hu : Unmarked s) :
    ¬ s <:+: redact secrets input := by
  obtain ⟨ps, htiles, hout⟩ := exists_tiles secrets input
  have hnot := htiles.not_infix hs hne hu 0 (Nat.le_refl 0) fun k _ hk => absurd hk (by omega)
  rw [← hout, List.take_zero, List.nil_append] at hnot
  exact hnot

/-- **Where no secret stands, nothing is hidden.** -/
theorem redact_of_not_infix : ∀ {input : Bytes},
    (∀ s ∈ secrets, s ≠ [] → ¬ s <:+: input) → redact secrets input = input
  | [], _ => by simp [redact]
  | b :: rest, h => by
    have hmatch : longestMatch secrets (b :: rest) = 0 := by
      rcases Nat.eq_zero_or_pos (longestMatch secrets (b :: rest)) with h0 | hpos
      · exact h0
      · obtain ⟨s, hs, hp, hlen⟩ := exists_longestMatch hpos
        refine absurd hp.isInfix (h s hs fun hnil => ?_)
        rw [hnil, List.length_nil] at hlen
        omega
    have hm : move secrets true (b :: rest) = .forward := by simp [move, hmatch]
    have ih : redact secrets rest = rest := redact_of_not_infix fun s hs hne hin =>
      h s hs hne (hin.trans (List.suffix_cons b rest).isInfix)
    unfold redact at ih ⊢
    rw [scan_forward hm, ih]

end Redaction

namespace Redactor

open Redaction (Unmarked shown)

/-- What a stream forwards before and with its close is decided by the bytes written to it. -/
theorem run_of_close_notMem (set : SecretSet) {calls : List Call} (h : Call.close ∉ calls) :
    let after := Redactor.run { secrets := set.bytes } calls
    after.2 = shown set.bytes (calls.flatMap Call.bytes) ∧
      after.2 ++ after.1.close.2 = set.redactBytes (calls.flatMap Call.bytes) := by
  intro after
  have hsettled := Ledger.settled_run (Ledger.settled_start set) calls
  have hcurrent := Ledger.current_run set h
  have hout : after.2 = shown set.bytes (calls.flatMap Call.bytes) := by
    have hshown := hsettled.forwarded_eq
    rw [hcurrent] at hshown
    exact hshown
  have hclose := close_of_held (hsettled.pending_eq.trans (by rw [hsettled.secrets_eq]))
  rw [hsettled.secrets_eq, ((Ledger.start set).run_account calls).1, hcurrent] at hclose
  exact ⟨hout, hout ▸ hclose.2⟩

/-- **No secret is shown at any moment.** After any writes and flushes, what a stream forwarded
shows no secret that is unmarked, whatever the other secrets are, and neither does what it will have
forwarded after its close. If all secrets are unmarked, redacting that output once more changes
nothing. The empty string, which stands in every text, is not taken for a secret. -/
theorem forwarded_hides (set : SecretSet) (calls : List Call) (h : Call.close ∉ calls) :
    let after := Redactor.run { secrets := set.bytes } calls
    let final := after.2 ++ after.1.close.2
    (∀ s ∈ set.bytes, s ≠ [] → Unmarked s → ¬ s <:+: after.2 ∧ ¬ s <:+: final) ∧
    ((∀ s ∈ set.bytes, Unmarked s) → set.redactBytes final = final) := by
  intro after final
  have hfinal : final = set.redactBytes (calls.flatMap Call.bytes) :=
    (run_of_close_notMem set h).2
  have hnot : ∀ s ∈ set.bytes, s ≠ [] → Unmarked s → ¬ s <:+: final := fun s hs hne hu => by
    rw [hfinal]
    exact Redaction.not_infix_redact hs hne hu
  refine ⟨fun s hs hne hu => ⟨fun hin => ?_, hnot s hs hne hu⟩, fun hall => ?_⟩
  · exact hnot s hs hne hu (hin.trans (List.prefix_append _ _).isInfix)
  · exact Redaction.redact_of_not_infix fun s hs hne => hnot s hs hne (hall s hs)

/-- Secrets that overlap over a line break, one of them cut in the middle. -/
theorem forwarded_hides_overlap :
    let set : SecretSet := ⟨["ab\nc", "cde"]⟩
    let calls : List Call :=
      [.write (Utf8.encode "xab"), .flush, .write (Utf8.encode "\ncd"), .write (Utf8.encode "ey")]
    let after := Redactor.run { secrets := set.bytes } calls
    let final := after.2 ++ after.1.close.2
    (Call.close ∉ calls ∧ (∀ s ∈ set.bytes, s ≠ [] ∧ Unmarked s)) ∧
    (∀ s ∈ set.bytes, ¬ s <:+: after.2 ∧ ¬ s <:+: final) ∧ set.redactBytes final = final := by
  intro set calls after final
  have hclose : Call.close ∉ calls := by decide
  have hall : ∀ s ∈ set.bytes, s ≠ [] ∧ Unmarked s := by decide +kernel
  obtain ⟨hhidden, hagain⟩ := forwarded_hides set calls hclose
  exact ⟨⟨hclose, hall⟩, fun s hs => hhidden s hs (hall s hs).1 (hall s hs).2,
    hagain fun s hs => (hall s hs).2⟩

end Redactor

end Stepwise
