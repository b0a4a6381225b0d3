import Stepwise.Proofs.Secrets.Members
import Stepwise.Proofs.Secrets.Pieces
import Stepwise.Secrets.Redactor

/-!
# Two sets of secrets

A set keeps its values in the order in which they were first seen. Redaction looks for the longest
secret at a place and for a secret that could still complete there, and neither depends on that
order. And what a set hides, a larger one hides as well, although its spans may begin and end
elsewhere.

* `couldComplete_congr`, `longestMatch_congr`, `move_congr`, `scan_congr`: **a scan depends only on
  which secrets there are.**
* `Redactor.Alike`: two streams with the same secrets that hold the same bytes; every call keeps
  them so.
* `Redaction.Hides`: a position belongs to a span that redaction replaces; `hides_iff_covered` says
  which these are.
* `SecretSet.redaction_by_members`: **the order of a set does not count, and a larger set hides no
  less.**
-/

namespace Stepwise

namespace Redaction

/-! ## The order of the secrets -/

section

variable {S T : List Bytes}

theorem longestMatch_mono (h : ∀ s ∈ S, s ∈ T) (rest : Bytes) :
    longestMatch S rest ≤ longestMatch T rest := by
  rcases le_longestMatch_iff.mp (Nat.le_refl (longestMatch S rest)) with h0 | ⟨s, hs, hp, hle⟩
  · omega
  · exact Nat.le_trans hle (length_le_longestMatch (h s hs) hp)

variable (h : ∀ s, s ∈ S ↔ s ∈ T)

include h

theorem couldComplete_congr (rest : Bytes) : couldComplete S rest = couldComplete T rest := by
  rw [Bool.eq_iff_iff, couldComplete_iff, couldComplete_iff]
  simp only [h]

theorem longestMatch_congr (rest : Bytes) : longestMatch S rest = longestMatch T rest :=
  Nat.le_antisymm (longestMatch_mono (fun s => (h s).mp) rest)
    (longestMatch_mono (fun s => (h s).mpr) rest)

theorem growSpan_congr (atEnd : Bool) (rest : Bytes) (known : Nat) :
    growSpan S atEnd rest known = growSpan T atEnd rest known := by
  induction rest generalizing known with
  | nil => cases known <;> simp only [growSpan]
  | cons b rest ih =>
    cases known with
    | zero => simp only [growSpan]
    | succ known => simp only [growSpan, couldComplete_congr h, longestMatch_congr h, ih]

theorem move_congr (atEnd : Bool) (buffer : Bytes) : move S atEnd buffer = move T atEnd buffer := by
  have hspan (length : Nat) :
      spanLength S atEnd buffer length = spanLength T atEnd buffer length := by
    cases buffer with
    | nil => rfl
    | cons b rest => simp only [spanLength, growSpan_congr h]
  simp only [move, couldComplete_congr h, longestMatch_congr h, hspan]

/-- **A scan depends only on which secrets there are.** -/
theorem scan_congr (atEnd : Bool) (buffer : Bytes) : scan S atEnd buffer = scan T atEnd buffer := by
  match buffer with
  | [] => rw [scan_nil, scan_nil]
  | b :: rest =>
    cases hm : move S atEnd (b :: rest) with
    | wait => rw [scan_wait hm, scan_wait (move_congr h _ _ ▸ hm)]
    | forward =>
      rw [scan_forward hm, scan_forward (move_congr h _ _ ▸ hm), scan_congr atEnd rest]
    | hide extra =>
      rw [scan_hide hm, scan_hide (move_congr h _ _ ▸ hm), scan_congr atEnd (rest.drop extra)]
termination_by buffer.length

end

/-! ## What is hidden -/

/-- Redaction of a string replaces a span that holds position `i`. -/
def Hides (secrets : List Bytes) (input : Bytes) (i : Nat) : Prop :=
  ∃ s, .hidden s ∈ pieces secrets 0 input ∧ s.Holds i

variable {secrets : List Bytes} {input : Bytes}

/-- **What is hidden is what is covered.** -/
theorem hides_iff_covered {i : Nat} : Hides secrets input i ↔ Covered secrets input i := by
  have htiles := tiles_pieces secrets input
  constructor
  · rintro ⟨s, hs, hi⟩
    exact (htiles.sound.2 s hs).covered hi
  · exact htiles.exists_hidden_of_covered

/-- More secrets cover more. -/
theorem Covered.mono {S T : List Bytes} (h : ∀ s ∈ S, s ∈ T) {i : Nat} (hi : Covered S input i) :
    Covered T input i := by
  obtain ⟨o, ⟨s, hs, hoccurs⟩, hoi⟩ := hi
  exact ⟨o, ⟨s, h s hs, hoccurs⟩, hoi⟩

end Redaction

namespace Redactor

/-- Two streams have the same secrets, in whatever order, and hold the same bytes. -/
structure Alike (r r' : Redactor) : Prop where
  secrets_iff : ∀ s, s ∈ r.secrets ↔ s ∈ r'.secrets
  pending_eq : r.pending = r'.pending

theorem Alike.drain {r r' : Redactor} (h : Alike r r') (atEnd : Bool) :
    Alike (r.drain atEnd).1 (r'.drain atEnd).1 ∧ (r.drain atEnd).2 = (r'.drain atEnd).2 := by
  obtain ⟨hsecrets, hpending⟩ := h
  unfold Redactor.drain
  rw [Redaction.scan_congr hsecrets, hpending]
  exact ⟨⟨hsecrets, rfl⟩, rfl⟩

/-- **One call keeps streams alike**, and both forward the same bytes. -/
theorem Alike.call {r r' : Redactor} (h : Alike r r') (c : Call) :
    Alike (r.call c).1 (r'.call c).1 ∧ (r.call c).2 = (r'.call c).2 := by
  cases c with
  | write bytes =>
    have hempty : r.secrets.isEmpty = r'.secrets.isEmpty := by
      rw [Bool.eq_iff_iff, List.isEmpty_iff, List.isEmpty_iff, List.eq_nil_iff_forall_not_mem,
        List.eq_nil_iff_forall_not_mem]
      simp only [h.secrets_iff]
    simp only [Redactor.call, write, hempty]
    split
    · exact ⟨h, rfl⟩
    · have hlonger :
          Alike { r with pending := r.pending ++ bytes }
            { r' with pending := r'.pending ++ bytes } :=
        ⟨h.secrets_iff, by rw [h.pending_eq]⟩
      exact hlonger.drain false
  | flush => exact ⟨h, rfl⟩
  | close => exact h.drain true

theorem Alike.run {r r' : Redactor} (h : Alike r r') (calls : List Call) :
    Alike (r.run calls).1 (r'.run calls).1 ∧ (r.run calls).2 = (r'.run calls).2 := by
  induction calls generalizing r r' with
  | nil => exact ⟨h, rfl⟩
  | cons c cs ih =>
    obtain ⟨hcall, hout⟩ := h.call c
    obtain ⟨hrun, houts⟩ := ih hcall
    exact ⟨hrun, congrArg₂ (· ++ ·) hout houts⟩

end Redactor

namespace SecretSet

open Redaction (Hides Piece pieces)

theorem bytes_subset {S T : SecretSet} (h : ∀ v ∈ S.values, v ∈ T.values) :
    ∀ s ∈ S.bytes, s ∈ T.bytes := by
  intro s hs
  obtain ⟨v, hv, rfl⟩ := List.mem_map.mp hs
  exact List.mem_map_of_mem (h v hv)

/-- **Redaction depends only on which secrets are in the set, and more secrets never reveal more.**
Two sets with the same values make a stream forward and hold the same bytes after any calls. If all
values of a set are in another one, each position of a string that redaction hides under the first
one is hidden under the other. -/
theorem redaction_by_members (S T : SecretSet) :
    ((∀ v, v ∈ S.values ↔ v ∈ T.values) → ∀ calls : List Redactor.Call,
      (Redactor.run { secrets := S.bytes } calls).2 =
        (Redactor.run { secrets := T.bytes } calls).2 ∧
      (Redactor.run { secrets := S.bytes } calls).1.pending =
        (Redactor.run { secrets := T.bytes } calls).1.pending) ∧
    ((∀ v ∈ S.values, v ∈ T.values) → ∀ input : Bytes,
      S.redactBytes input = (pieces S.bytes 0 input).flatMap (Piece.shown input) ∧
      T.redactBytes input = (pieces T.bytes 0 input).flatMap (Piece.shown input) ∧
      ∀ i, Hides S.bytes input i → Hides T.bytes input i) := by
  refine ⟨fun h calls => ?_, fun h input => ⟨?_, ?_, fun i hi => ?_⟩⟩
  · have halike : Redactor.Alike { secrets := S.bytes } { secrets := T.bytes } :=
      ⟨fun s => ⟨bytes_subset (fun v => (h v).mp) s, bytes_subset (fun v => (h v).mpr) s⟩, rfl⟩
    obtain ⟨hrun, hout⟩ := halike.run calls
    exact ⟨hout, hrun.pending_eq⟩
  · exact Redaction.redact_eq_pieces S.bytes input
  · exact Redaction.redact_eq_pieces T.bytes input
  · rw [Redaction.hides_iff_covered] at hi ⊢
    exact hi.mono (bytes_subset h)

/-- Two overlapping secrets, seen in different orders, and one of them alone. -/
theorem redaction_by_members_order :
    let S := (ofList ["abc"]).extend ["bcd\ne"]
    let T := (ofList ["bcd\ne"]).merge (ofList ["abc"])
    let one := ofList ["bcd\ne"]
    let calls : List Redactor.Call :=
      [.write (Utf8.encode "xabc"), .flush, .write (Utf8.encode "d!")]
    let input := Utf8.encode "xabcd\ne!"
    (S.values ≠ T.values ∧ (∀ v, v ∈ S.values ↔ v ∈ T.values) ∧
      (Redactor.run { secrets := S.bytes } calls).2 =
        (Redactor.run { secrets := T.bytes } calls).2) ∧
    ((∀ v ∈ one.values, v ∈ T.values) ∧ Hides one.bytes input 2 ∧ Hides T.bytes input 2) := by
  intro S T one calls input
  have hperm : S.values.Perm T.values := by decide +kernel
  have hsubset : ∀ v ∈ one.values, v ∈ T.values := by decide +kernel
  have hhides : Hides one.bytes input 2 := ⟨⟨2, 7⟩, by decide +kernel, by decide, by decide⟩
  obtain ⟨-, -, hmore⟩ := (redaction_by_members one T).2 hsubset input
  exact ⟨⟨by decide +kernel, fun v => hperm.mem_iff,
    ((redaction_by_members S T).1 (fun v => hperm.mem_iff) calls).1⟩,
    hsubset, hhides, hmore 2 hhides⟩

end SecretSet

end Stepwise
