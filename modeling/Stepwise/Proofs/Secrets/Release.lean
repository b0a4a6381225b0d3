import Stepwise.Proofs.Secrets.Tail

/-!
# When a stream lets go

Bytes are held back only as long as they could still turn out to be part of a secret. Then the end
of what is held is the beginning of a secret, and so is the end of the stream so far. Where the
stream ends in any other way, all of it is out: each byte was forwarded or replaced.

* `Begins`: some bytes are the beginning of a secret that goes on after them.
* `exists_suffix_held`: **what is held ends with the beginning of a secret.**
* `held_eq_nil`, `shown_of_held_eq_nil`: a stream that ends with no such beginning holds nothing,
  and shows what it would show if it ended there.
* `Redactor.pending_has_reason`: the same for a redactor after any calls.
-/

namespace Stepwise

namespace Redaction

variable {secrets : List Bytes} {written : Bytes}

/-- Some bytes are the beginning of a secret, and not all of it. -/
def Begins (secrets : List Bytes) (bytes : Bytes) : Prop :=
  ∃ s ∈ secrets, bytes <+: s ∧ bytes ≠ s

theorem begins_of_couldComplete {bytes : Bytes} (h : couldComplete secrets bytes = true) :
    Begins secrets bytes := by
  obtain ⟨s, hs, hlt, hp⟩ := couldComplete_iff.mp h
  exact ⟨s, hs, hp, fun heq => absurd hlt (by simp [heq])⟩

/-- A byte of a beginning of a secret is a byte of a secret. -/
theorem Begins.exists_mem {bytes : Bytes} (h : Begins secrets bytes) {b : UInt8} (hb : b ∈ bytes) :
    ∃ s ∈ secrets, b ∈ s := by
  obtain ⟨s, hs, hp, -⟩ := h
  exact ⟨s, hs, hp.subset hb⟩

/-- **What is held ends with the beginning of a secret.** -/
theorem exists_suffix_held (h : held secrets written ≠ []) :
    ∃ tail, tail ≠ [] ∧ tail <:+ held secrets written ∧ Begins secrets tail := by
  obtain ⟨i, hcould, hchain⟩ := exists_of_move_wait (move_held h)
  refine ⟨(held secrets written).drop i, ?_, List.drop_suffix i _, begins_of_couldComplete hcould⟩
  rw [Ne, List.drop_eq_nil_iff, Nat.not_le]
  rcases Nat.eq_zero_or_pos i with rfl | hi
  · exact List.length_pos_iff.mpr h
  · -- the chain goes on over position `i`, and it lies in what is held
    obtain ⟨o, ho, -, -, p, hp, -, hover⟩ := hchain hi
    exact Nat.lt_of_lt_of_le hover (hp.occurs ho).stop_le

/-- A stream that does not end with the beginning of a secret holds nothing. -/
theorem held_eq_nil (h : ∀ tail, tail ≠ [] → tail <:+ written → ¬ Begins secrets tail) :
    held secrets written = [] := by
  by_contra hne
  obtain ⟨tail, htail, hsuffix, hbegins⟩ := exists_suffix_held hne
  exact h tail htail (hsuffix.trans (List.drop_suffix _ _)) hbegins

/-- A stream whose last byte is in no secret ends with no beginning of one. -/
theorem not_begins_of_getLast? {b : UInt8} (hb : written.getLast? = some b)
    (hnot : ∀ s ∈ secrets, b ∉ s)
    {tail : Bytes} (hne : tail ≠ []) (hsuffix : tail <:+ written) : ¬ Begins secrets tail := by
  intro hbegins
  have hlast : tail.getLast hne = b := by
    have := hsuffix.getLast hne
    rw [List.getLast?_eq_some_getLast (hsuffix.ne_nil hne), Option.some.injEq] at hb
    rw [← hb, this]
  obtain ⟨s, hs, hmem⟩ := hbegins.exists_mem (List.getLast_mem hne)
  exact hnot s hs (hlast ▸ hmem)

/-- A stream that holds nothing shows what it would show if it ended there. -/
theorem shown_of_held_eq_nil (h : held secrets written = []) :
    shown secrets written = redact secrets written := by
  rw [redact_eq_shown_append, h, redact, scan_nil, List.append_nil]

end Redaction

namespace Redactor

open Redaction (Begins held shown)

/-- A redactor that has nothing to hold back of the bytes since the last close holds nothing, and
has forwarded these bytes redacted. -/
theorem released_of_held_eq_nil (set : SecretSet) (calls : List Call)
    (h : held set.bytes ((Ledger.start set).run calls).current.written = []) :
    (Redactor.run { secrets := set.bytes } calls).1.pending = [] ∧
      ((Ledger.start set).run calls).current.forwarded =
        set.redactBytes ((Ledger.start set).run calls).current.written := by
  have hsettled := Ledger.settled_run (Ledger.settled_start set) calls
  refine ⟨(pending_run set calls).trans h, ?_⟩
  rw [hsettled.forwarded_eq, Redaction.shown_of_held_eq_nil h]
  rfl

/-- **Bytes are held only for a reason.** After any calls, what a redactor holds ends with the
beginning of a secret. So once the bytes written since the last close do not end so, in particular
once the last of them is in no secret, nothing is held, and all these bytes are forwarded or
replaced. Without a close these are all the bytes written, and what was forwarded is all the
output. -/
theorem pending_has_reason (set : SecretSet) (calls : List Call) :
    let after := Redactor.run { secrets := set.bytes } calls
    let stretch := ((Ledger.start set).run calls).current
    (Call.close ∉ calls → stretch.written = calls.flatMap Call.bytes ∧
      stretch.forwarded = after.2) ∧
    (after.1.pending ≠ [] →
      ∃ tail, tail ≠ [] ∧ tail <:+ after.1.pending ∧ Begins set.bytes tail) ∧
    ((∀ tail, tail ≠ [] → tail <:+ stretch.written → ¬ Begins set.bytes tail) →
      after.1.pending = [] ∧ stretch.forwarded = set.redactBytes stretch.written) ∧
    (∀ b, stretch.written.getLast? = some b → (∀ s ∈ set.bytes, b ∉ s) →
      after.1.pending = [] ∧ stretch.forwarded = set.redactBytes stretch.written) := by
  intro after stretch
  have hreleased : (∀ tail, tail ≠ [] → tail <:+ stretch.written → ¬ Begins set.bytes tail) →
      after.1.pending = [] ∧ stretch.forwarded = set.redactBytes stretch.written := fun h =>
    released_of_held_eq_nil set calls (Redaction.held_eq_nil h)
  refine ⟨fun hclose => ?_, fun hne => ?_, hreleased,
    fun b hb hnot => hreleased fun tail hne hsuffix => ?_⟩
  · rw [show stretch = _ from Ledger.current_run set hclose]
    exact ⟨rfl, rfl⟩
  · rw [show after.1.pending = _ from pending_run set calls] at hne ⊢
    exact Redaction.exists_suffix_held hne
  · exact Redaction.not_begins_of_getLast? hb hnot hne hsuffix

/-- Two secrets that overlap are held together while the second one could still complete. A byte
that is in neither of them releases everything. -/
theorem pending_has_reason_overlap :
    let set : SecretSet := ⟨["abc", "bcdefgh"]⟩
    let calls : List Call := [.write (Utf8.encode "xabc"), .flush, .write (Utf8.encode "defg")]
    let before := Redactor.run { secrets := set.bytes } calls
    let after := Redactor.run { secrets := set.bytes } (calls ++ [.write (Utf8.encode "!")])
    (before.1.pending ≠ [] ∧
      ∃ tail, tail ≠ [] ∧ tail <:+ before.1.pending ∧ Begins set.bytes tail) ∧
    ((∀ s ∈ set.bytes, 33 ∉ s) ∧ after.1.pending = [] ∧
      after.2 = set.redactBytes (Utf8.encode "xabcdefg!")) := by
  intro set calls before after
  have hheld : before.1.pending ≠ [] := by decide +kernel
  have hnot : ∀ s ∈ set.bytes, (33 : UInt8) ∉ s := by decide +kernel
  obtain ⟨hall, -, -, hlast⟩ := pending_has_reason set (calls ++ [.write (Utf8.encode "!")])
  obtain ⟨hwritten, hforwarded⟩ := hall (by decide)
  obtain ⟨hnone, hout⟩ := hlast 33 (by decide +kernel) hnot
  rw [hwritten, hforwarded] at hout
  exact ⟨⟨hheld, (pending_has_reason set calls).2.1 hheld⟩, hnot, hnone, hout⟩

end Redactor

end Stepwise
