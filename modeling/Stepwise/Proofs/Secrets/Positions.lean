import Mathlib.Logic.Function.Iterate
import Stepwise.Proofs.Secrets.Assembly
import Stepwise.Proofs.Secrets.Pieces
import Stepwise.Proofs.Secrets.Stream
import Stepwise.Proofs.Text.Utf8

/-!
# A scan by positions

A scan goes through a buffer by positions: one for where it stands, and while a span grows one more
for how far the span is known to reach. It takes parts of the buffer at these positions, and a part
that is not there is a fault, as is a span without a byte. `Walk` is such a scan, taken one step at
a time.

* `slice?`, `front?`, `marks?`: what is done with bytes, and where it cannot be done.
* `Walk.step`: one step. The end of a span moves while the position inside it does.
* `Walk.InBounds`: **where a scan stands**, inside the buffer. `Walk.left`: how many steps are left
  at most. `Walk.result`: what the scan will decide.
* `Walk.step_scanning`, `step_growing`: one step stays in bounds, gets closer to the end and does
  not change the result.
* `Walk.growing_ends`: **a span stops growing.** `Walk.inBounds_iterate`, `exists_iterate_eq_ended`:
  so does a scan.
* `Redactor.passes`: the scans of a stream. `Redactor.held_passes`: each begins with what the one
  before it left.
* `scan_in_bounds`: **a scan ends in bounds with its decision.**
-/

namespace Stepwise

namespace Redaction

/-! ## Parts of a buffer -/

/-- The bytes between two positions, if both lie in the buffer in this order. -/
def slice? (buffer : Bytes) (start stop : Nat) : Option Bytes :=
  if start ≤ stop ∧ stop ≤ buffer.length then some (Span.bytes ⟨start, stop⟩ buffer) else none

/-- The length of the longest secret at the front, also if that is empty. -/
def front? (secrets : List Bytes) (rest : Bytes) : Option Nat :=
  ((secrets.filter (·.isPrefixOf rest)).map List.length).max?

/-- What is shown in place of a span, which has to have a last byte. -/
def marks? (span : Bytes) : Option Bytes :=
  if span = [] then none else some (replacement span)

theorem slice?_eq {buffer : Bytes} {start stop : Nat} (hstart : start ≤ stop)
    (hstop : stop ≤ buffer.length) :
    slice? buffer start stop = some (Span.bytes ⟨start, stop⟩ buffer) :=
  if_pos ⟨hstart, hstop⟩

theorem slice?_rest {buffer : Bytes} {pos : Nat} (h : pos ≤ buffer.length) :
    slice? buffer pos buffer.length = some (buffer.drop pos) := by
  have hlength : (buffer.drop pos).length ≤ buffer.length - pos := Nat.le_of_eq List.length_drop
  rw [slice?_eq h (Nat.le_refl _), Span.bytes, List.take_of_length_le hlength]

/-- **The secret at the front** is one that is not empty, if none of them is. -/
theorem front?_cases {secrets : List Bytes} (hne : ∀ s ∈ secrets, s ≠ []) (rest : Bytes) :
    (front? secrets rest = none ∧ longestMatch secrets rest = 0) ∨
      ∃ n, front? secrets rest = some (n + 1) ∧ longestMatch secrets rest = n + 1 := by
  unfold front? longestMatch
  cases hfound : secrets.filter (·.isPrefixOf rest) with
  | nil => exact Or.inl ⟨rfl, rfl⟩
  | cons s others =>
    have hs : s ∈ secrets := (List.mem_filter.mp (hfound ▸ List.mem_cons_self)).1
    have hpos := List.length_pos_iff.mpr (hne s hs)
    have hle : s.length ≤ (others.map List.length).foldl max s.length :=
      le_foldl_max_iff.mpr (Or.inl (Nat.le_refl _))
    obtain ⟨n, hn⟩ :=
      Nat.exists_eq_succ_of_ne_zero (Nat.pos_iff_ne_zero.mp (Nat.lt_of_lt_of_le hpos hle))
    refine Or.inr ⟨n, ?_, ?_⟩
    · rw [List.map_cons, List.max?_cons', hn]
    · rw [List.map_cons, List.foldl_cons, Nat.zero_max, hn]

/-! ## Steps -/

/-- Where a scan by positions stands. -/
inductive Walk where
  /-- At a position, after some output. -/
  | scanning (pos : Nat) (out : Bytes)
  /-- At a position in a span from `start`, which is known to reach `stop`. -/
  | growing (out : Bytes) (start pos stop : Nat)
  /-- At the end. -/
  | ended (decision : Decision)
  /-- A part of the buffer was not there. -/
  | fault
  deriving DecidableEq

namespace Walk

variable (secrets : List Bytes) (atEnd : Bool) (buffer : Bytes)

/-- One step of a scan. -/
def step : Walk → Walk
  | scanning pos out =>
    if pos < buffer.length then match slice? buffer pos buffer.length with
      | none | some [] => fault
      | some (b :: rest) =>
        if !atEnd && couldComplete secrets (b :: rest) then ended ⟨out, pos⟩
        else match front? secrets (b :: rest) with
          | some length => growing out pos (pos + 1) (pos + length)
          | none => scanning (pos + 1) (out ++ [b])
    else ended ⟨out, pos⟩
  | growing out start pos stop =>
    if pos < stop then match slice? buffer pos buffer.length with
      | none => fault
      | some rest =>
        if !atEnd && couldComplete secrets rest then ended ⟨out, start⟩
        else match front? secrets rest with
          | some length => growing out start (pos + 1) (max stop (pos + length))
          | none => growing out start (pos + 1) stop
    else match (slice? buffer start stop).bind marks? with
      | some shown => scanning stop (out ++ shown)
      | none => fault
  | ended decision => ended decision
  | fault => fault

/-- **Where a scan stands.** A span that grows began with a secret at `start` and holds it; the
position is behind the first byte of the span, and the span ends inside the buffer. -/
inductive InBounds : Walk → Prop
  | scanning {pos : Nat} {out : Bytes} (hpos : pos ≤ buffer.length) : InBounds (.scanning pos out)
  | growing {out : Bytes} {start pos stop : Nat}
      (hmatch : Occurs secrets buffer ⟨start, start + longestMatch secrets (buffer.drop start)⟩)
      (hheld : start + longestMatch secrets (buffer.drop start) ≤ stop)
      (hstop : stop ≤ buffer.length) (hstart : start < pos) (hpos : pos ≤ stop) :
      InBounds (.growing out start pos stop)
  | ended {d : Decision} (hpos : d.consumed ≤ buffer.length)
      (hall : atEnd = true → d.consumed = buffer.length) : InBounds (.ended d)

/-- The number of steps that are left at most. A span takes as many steps as it has bytes, and these
are as many as are taken off the buffer in the end. -/
def left : Walk → Nat
  | scanning pos _ => 2 * (buffer.length - pos) + 1
  | growing _ start pos _ => (buffer.length - start) + (buffer.length - pos) + 1
  | ended _ => 0
  | fault => 0

/-- What a scan will have decided. -/
def result : Walk → Decision
  | scanning pos out =>
    let d := scan secrets atEnd (buffer.drop pos)
    ⟨out ++ d.output, pos + d.consumed⟩
  | growing out start pos stop => match growSpan secrets atEnd (buffer.drop pos) (stop - pos) with
    | none => ⟨out, start⟩
    | some n =>
      let d := scan secrets atEnd (buffer.drop (pos + n))
      ⟨out ++ replacement (Span.bytes ⟨start, pos + n⟩ buffer) ++ d.output, pos + n + d.consumed⟩
  | ended d => d
  | fault => ⟨[], 0⟩

/-- What a step does: it stays in bounds, gets closer to the end and does not change the result. -/
structure Advances (w w' : Walk) : Prop where
  inBounds : InBounds secrets atEnd buffer w'
  left_lt : left buffer w' < left buffer w
  result_eq : result secrets atEnd buffer w' = result secrets atEnd buffer w

/-! ## One step -/

variable {secrets atEnd buffer} {b : UInt8} {rest : Bytes}

theorem move_eq_wait (h : (!atEnd && couldComplete secrets (b :: rest)) = true) :
    move secrets atEnd (b :: rest) = .wait :=
  if_pos h

theorem move_eq_forward (h : ¬ (!atEnd && couldComplete secrets (b :: rest)) = true)
    (hlong : longestMatch secrets (b :: rest) = 0) : move secrets atEnd (b :: rest) = .forward := by
  rw [move, if_neg h, hlong]

/-- A match at the front is hidden once its span has stopped growing. -/
theorem move_of_match {n : Nat} (h : ¬ (!atEnd && couldComplete secrets (b :: rest)) = true)
    (hlong : longestMatch secrets (b :: rest) = n + 1) : move secrets atEnd (b :: rest) =
      match growSpan secrets atEnd rest n with
      | some extra => .hide extra
      | none => .wait := by
  rw [move, if_neg h, hlong]
  cases hgrow : growSpan secrets atEnd rest n <;> simp [spanLength, hgrow]

/-- A span that grows takes in what is found inside it. -/
theorem growSpan_cons {known : Nat} (h : ¬ (!atEnd && couldComplete secrets (b :: rest)) = true) :
    growSpan secrets atEnd (b :: rest) (known + 1) =
      (growSpan secrets atEnd rest (max (known + 1) (longestMatch secrets (b :: rest)) - 1)).map
        (· + 1) := by
  rw [growSpan, if_neg h]

/-- A span that begins with the match at the front will end where the scan hides it. -/
theorem result_of_match {pos n : Nat} {out : Bytes}
    (hdrop : buffer.drop pos = b :: buffer.drop (pos + 1))
    (h : ¬ (!atEnd && couldComplete secrets (b :: buffer.drop (pos + 1))) = true)
    (hlong : longestMatch secrets (b :: buffer.drop (pos + 1)) = n + 1) :
    result secrets atEnd buffer (.growing out pos (pos + 1) (pos + (n + 1))) =
      result secrets atEnd buffer (.scanning pos out) := by
  have hknown : pos + (n + 1) - (pos + 1) = n := by omega
  have hmove := move_of_match h hlong
  simp only [result, hdrop, hknown]
  cases hgrow : growSpan secrets atEnd (buffer.drop (pos + 1)) n with
  | none =>
    rw [hgrow] at hmove
    simp [scan_wait hmove]
  | some extra =>
    rw [hgrow] at hmove
    have hstop : pos + 1 + extra = pos + (extra + 1) := by omega
    simp only [scan_hide hmove, hstop, bytes_of_drop_eq hdrop, List.drop_drop, List.append_assoc,
      Decision.mk.injEq, true_and]
    omega

section

variable (hne : ∀ s ∈ secrets, s ≠ [])

include hne

theorem step_scanning {pos : Nat} {out : Bytes}
    (h : InBounds secrets atEnd buffer (.scanning pos out)) :
    Advances secrets atEnd buffer (.scanning pos out)
      (step secrets atEnd buffer (.scanning pos out)) := by
  obtain ⟨hpos⟩ := h
  by_cases hlt : pos < buffer.length
  · obtain ⟨b, -, hdrop⟩ := exists_drop_cons hlt
    simp only [step, if_pos hlt, slice?_rest hpos, hdrop]
    by_cases hwait : (!atEnd && couldComplete secrets (b :: buffer.drop (pos + 1))) = true
    · rw [if_pos hwait]
      refine ⟨.ended hpos fun hend => by simp [hend] at hwait, Nat.succ_pos _, ?_⟩
      simp [result, hdrop, scan_wait (move_eq_wait hwait)]
    · rw [if_neg hwait]
      obtain ⟨hfront, hlong⟩ | ⟨n, hfront, hlong⟩ := front?_cases hne (b :: buffer.drop (pos + 1))
      · rw [hfront]
        refine ⟨.scanning hlt, by simp only [left]; omega, ?_⟩
        simp only [result, hdrop, scan_forward (move_eq_forward hwait hlong), List.append_assoc,
          List.singleton_append, Decision.mk.injEq, true_and]
        omega
      · rw [hfront]
        have hfirst : longestMatch secrets (buffer.drop pos) = n + 1 := by rw [hdrop, hlong]
        have hmatch : Occurs secrets buffer ⟨pos, pos + longestMatch secrets (buffer.drop pos)⟩ :=
          occurs_of_longestMatch (by omega)
        have hle : pos + longestMatch secrets (buffer.drop pos) ≤ buffer.length := hmatch.stop_le
        -- the match has a byte, so the span reaches behind the position that the scan goes on from
        exact ⟨.growing hmatch (by omega) (by omega) (Nat.lt_succ_self pos) (by omega),
          by simp only [left]; omega, result_of_match hdrop hwait hlong⟩
  · obtain rfl : pos = buffer.length := Nat.le_antisymm hpos (Nat.le_of_not_lt hlt)
    simp only [step, if_neg hlt]
    exact ⟨.ended (Nat.le_refl _) fun _ => rfl, Nat.succ_pos _, by simp [result]⟩

/-- **One step in a span that grows.** It waits for more bytes, or it goes on by one position while
the end of the span may move, or it has come to the end and replaces the span. -/
theorem step_growing_cases {out : Bytes} {start pos stop : Nat}
    (h : InBounds secrets atEnd buffer (.growing out start pos stop)) :
    (step secrets atEnd buffer (.growing out start pos stop) = .ended ⟨out, start⟩ ∧ atEnd = false ∧
      growSpan secrets atEnd (buffer.drop pos) (stop - pos) = none) ∨
    (∃ stop', pos < stop ∧ stop ≤ stop' ∧ stop' ≤ buffer.length ∧
      step secrets atEnd buffer (.growing out start pos stop) = .growing out start (pos + 1) stop' ∧
      growSpan secrets atEnd (buffer.drop pos) (stop - pos) =
        (growSpan secrets atEnd (buffer.drop (pos + 1)) (stop' - (pos + 1))).map (· + 1)) ∨
    (pos = stop ∧ step secrets atEnd buffer (.growing out start pos stop) =
      .scanning stop (out ++ replacement (Span.bytes ⟨start, stop⟩ buffer))) := by
  cases h with
  | growing hmatch hheld hstop hstart hpos =>
  by_cases hlt : pos < stop
  · obtain ⟨b, -, hdrop⟩ := exists_drop_cons (Nat.lt_of_lt_of_le hlt hstop)
    obtain ⟨known, hknown⟩ : ∃ known, stop - pos = known + 1 := ⟨stop - pos - 1, by omega⟩
    simp only [step, if_pos hlt, slice?_rest (Nat.le_trans hpos hstop), hdrop, hknown]
    by_cases hwait : (!atEnd && couldComplete secrets (b :: buffer.drop (pos + 1))) = true
    · refine Or.inl ⟨if_pos hwait, ?_, by rw [growSpan, if_pos hwait]⟩
      exact (Bool.not_eq_true' _).mp (Bool.and_eq_true_iff.mp hwait).1
    · rw [if_neg hwait, growSpan_cons hwait]
      have hreach := longestMatch_le_length secrets (b :: buffer.drop (pos + 1))
      rw [← hdrop, List.length_drop, hdrop] at hreach
      have hgrown : max stop (pos + longestMatch secrets (b :: buffer.drop (pos + 1))) - (pos + 1) =
          max (known + 1) (longestMatch secrets (b :: buffer.drop (pos + 1))) - 1 := by omega
      -- the end of the span moves to the end of the match here, if that is behind it
      refine Or.inr
        (Or.inl ⟨max stop (pos + longestMatch secrets (b :: buffer.drop (pos + 1))), hlt,
          Nat.le_max_left _ _, by omega, ?_, by rw [hgrown]⟩)
      obtain ⟨hfront, hlong⟩ | ⟨n, hfront, hlong⟩ := front?_cases hne (b :: buffer.drop (pos + 1))
      · have hmax : max stop (pos + 0) = stop := by omega
        rw [hfront, hlong, hmax]
      · rw [hfront, hlong]
  · obtain rfl : pos = stop := Nat.le_antisymm hpos (Nat.le_of_not_lt hlt)
    have hspan : Span.bytes ⟨start, pos⟩ buffer ≠ [] := by
      refine List.ne_nil_of_length_pos ?_
      rw [Span.bytes, List.length_take, List.length_drop]
      simp only
      omega
    refine Or.inr (Or.inr ⟨rfl, ?_⟩)
    simp only [step, if_neg hlt, slice?_eq (Nat.le_of_lt hstart) hstop, Option.bind_some, marks?,
      if_neg hspan]

theorem step_growing {out : Bytes} {start pos stop : Nat}
    (h : InBounds secrets atEnd buffer (.growing out start pos stop)) :
    Advances secrets atEnd buffer (.growing out start pos stop)
      (step secrets atEnd buffer (.growing out start pos stop)) := by
  have hcases := step_growing_cases hne h
  cases h with
  | growing hmatch hheld hstop hstart hpos =>
  obtain ⟨heq, hopen, hgrow⟩ | ⟨stop', hlt, hle, hstop', heq, hgrow⟩ | ⟨rfl, heq⟩ := hcases
  · rw [heq]
    refine ⟨.ended (by simp only; omega) fun hend => ?_,
      Nat.succ_pos _, by simp only [result, hgrow]⟩
    exact absurd (hopen.symm.trans hend) Bool.false_ne_true
  · rw [heq]
    refine ⟨.growing hmatch (by omega) hstop' (by omega) (by omega), by simp only [left]; omega, ?_⟩
    simp only [result, hgrow]
    cases growSpan secrets atEnd (buffer.drop (pos + 1)) (stop' - (pos + 1)) with
    | none => rfl
    | some n =>
      have hend : pos + 1 + n = pos + (n + 1) := by omega
      simp only [Option.map_some, hend]
  · rw [heq]
    exact ⟨.scanning hstop, by simp only [left]; omega, by simp [result, growSpan]⟩

/-- **A span stops growing**, although its end moves: it waits for more bytes, or it is replaced,
and then it holds the match that it began with and lies inside the buffer. -/
theorem growing_ends {out : Bytes} {start pos stop : Nat}
    (h : InBounds secrets atEnd buffer (.growing out start pos stop)) :
    ∃ k ≤ buffer.length - pos + 1,
      (step secrets atEnd buffer)^[k] (.growing out start pos stop) = .ended ⟨out, start⟩ ∨
      ∃ stop', start < stop' ∧ start + longestMatch secrets (buffer.drop start) ≤ stop' ∧
        stop' ≤ buffer.length ∧ (step secrets atEnd buffer)^[k] (.growing out start pos stop) =
          .scanning stop' (out ++ replacement (Span.bytes ⟨start, stop'⟩ buffer)) := by
  have hadvances := (step_growing hne h).inBounds
  obtain ⟨heq, -⟩ | ⟨stop', hlt, hle, hstop', heq, -⟩ | ⟨rfl, heq⟩ := step_growing_cases hne h
  · exact ⟨1, Nat.le_add_left _ _, Or.inl heq⟩
  · rw [heq] at hadvances
    obtain ⟨k, hk, hends⟩ := growing_ends hadvances
    refine ⟨k + 1, by omega, ?_⟩
    rw [Function.iterate_succ_apply, heq]
    exact hends
  · cases h with
    | growing hmatch hheld hstop hstart hpos =>
    exact ⟨1, Nat.le_add_left _ _, Or.inr ⟨pos, hstart, hheld, hstop, heq⟩⟩
termination_by buffer.length - pos

/-! ## A whole scan -/

theorem advances {w : Walk} (h : InBounds secrets atEnd buffer w)
    (hgoes : ∀ d, w ≠ .ended d) :
    Advances secrets atEnd buffer w (step secrets atEnd buffer w) := by
  cases w with
  | scanning pos out => exact step_scanning hne h
  | growing out start pos stop => exact step_growing hne h
  | ended d => exact absurd rfl (hgoes d)
  | fault => cases h

/-- **A scan stays in bounds.** -/
theorem inBounds_iterate {w : Walk} (h : InBounds secrets atEnd buffer w)
    (k : Nat) : InBounds secrets atEnd buffer ((step secrets atEnd buffer)^[k] w) := by
  induction k generalizing w with
  | zero => exact h
  | succ k ih =>
    rw [Function.iterate_succ_apply]
    by_cases hgoes : ∀ d, w ≠ .ended d
    · exact ih (advances hne h hgoes).inBounds
    · obtain ⟨d, rfl⟩ : ∃ d, w = .ended d := by simpa using hgoes
      exact ih h

/-- **A scan ends with its result**, after no more steps than were left. -/
theorem exists_iterate_eq_ended {w : Walk}
    (h : InBounds secrets atEnd buffer w) : ∃ k ≤ left buffer w,
      (step secrets atEnd buffer)^[k] w = .ended (result secrets atEnd buffer w) := by
  by_cases hgoes : ∀ d, w ≠ .ended d
  · have hadvances := advances hne h hgoes
    have hlt := hadvances.left_lt
    obtain ⟨k, hk, hended⟩ := exists_iterate_eq_ended hadvances.inBounds
    exact ⟨k + 1, by omega, by rw [Function.iterate_succ_apply, hended, hadvances.result_eq]⟩
  · obtain ⟨d, rfl⟩ : ∃ d, w = .ended d := by simpa using hgoes
    exact ⟨0, Nat.le_refl _, rfl⟩
termination_by left buffer w

end

end Walk

end Redaction

/-! ## One scan after another -/

/-- A scan that a stream makes. -/
structure Pass where
  /-- What was held back before it. -/
  held : Bytes
  /-- What was written then. -/
  written : Bytes
  atEnd : Bool

/-- The bytes that a scan does not consume. -/
def Pass.rest (secrets : List Bytes) (p : Pass) : Bytes :=
  (p.held ++ p.written).drop (Redaction.scan secrets p.atEnd (p.held ++ p.written)).consumed

namespace Redactor

/-- The scans of a run. -/
def passes (r : Redactor) : List Call → List Pass
  | [] => []
  | c :: cs =>
    let later := (r.call c).1.passes cs
    match c with
    | .write bytes => if r.secrets.isEmpty then later else ⟨r.pending, bytes, false⟩ :: later
    | .flush => later
    | .close => ⟨r.pending, [], true⟩ :: later

/-- **Each scan begins with what the one before it left**, and what the last one left is held. -/
theorem held_passes (r : Redactor) (calls : List Call) :
    (r.passes calls).map Pass.held ++ [(r.run calls).1.pending] =
      r.pending :: (r.passes calls).map (Pass.rest r.secrets) := by
  induction calls generalizing r with
  | nil => rfl
  | cons c cs ih =>
    have ih := ih (r.call c).1
    cases c with
    | flush => exact ih
    | close =>
      refine congrArg (r.pending :: ·) (ih.trans (congrArg (· :: _) ?_))
      rw [Pass.rest, List.append_nil]
      rfl
    | write bytes =>
      by_cases hempty : r.secrets.isEmpty = true
      · have hcall : r.call (.write bytes) = (r, bytes) := if_pos hempty
        rw [hcall] at ih
        rw [passes, run, hcall]
        simp only [if_pos hempty]
        exact ih
      · have hcall : r.call (.write bytes) = { r with pending := r.pending ++ bytes }.drain false :=
          if_neg hempty
        rw [hcall] at ih
        rw [passes, run, hcall]
        simp only [if_neg hempty]
        exact congrArg (r.pending :: ·) ih

end Redactor

namespace SecretSet

/-- **No secret of a set that can be made is empty.** -/
theorem Assembled.bytes_ne_nil {supplied : List String} {set : SecretSet}
    (h : Assembled supplied set) :
    ∀ s ∈ set.bytes, s ≠ [] := by
  intro s hs hnil
  obtain ⟨v, hv, rfl⟩ := List.mem_map.mp hs
  rw [h.eq_ofList, SecretSet.ofList, mem_extend] at hv
  obtain ⟨u, -, hvariant⟩ := hv.resolve_left List.not_mem_nil
  have hempty : v = "" := String.toList_eq_nil_iff.mp (Utf8.encodeChars_eq_nil_iff.mp hnil)
  exact empty_notMem_variants u (hempty ▸ hvariant)

end SecretSet

namespace Redaction

open Walk

/-- **A scan ends in bounds with its decision.** Let no secret be empty. Then a scan by positions
never takes a part of the buffer that is not there: it always stands inside the buffer, and a span
that grows holds the match that it began with. Each span stops growing, and is not empty and inside
the buffer when it is replaced. After no more than two steps for each byte and one more, the scan
ends with what `scan` decides. No more is consumed than there is, all of it at the end of the
stream, and each scan of a stream begins with what the one before it left. -/
theorem scan_in_bounds {secrets : List Bytes} (hne : ∀ s ∈ secrets, s ≠ []) (atEnd : Bool)
    (buffer : Bytes) :
    (∀ k, InBounds secrets atEnd buffer ((step secrets atEnd buffer)^[k] (.scanning 0 []))) ∧
    (∃ k ≤ 2 * buffer.length + 1,
      (step secrets atEnd buffer)^[k] (.scanning 0 []) = .ended (scan secrets atEnd buffer)) ∧
    (∀ k out start pos stop,
      (step secrets atEnd buffer)^[k] (.scanning 0 []) = .growing out start pos stop →
      Occurs secrets buffer ⟨start, start + longestMatch secrets (buffer.drop start)⟩ ∧
      ∃ n ≤ buffer.length - pos + 1,
        (step secrets atEnd buffer)^[k + n] (.scanning 0 []) = .ended ⟨out, start⟩ ∨
        ∃ stop', start < stop' ∧ start + longestMatch secrets (buffer.drop start) ≤ stop' ∧
          stop' ≤ buffer.length ∧ (step secrets atEnd buffer)^[k + n] (.scanning 0 []) =
            .scanning stop' (out ++ replacement (Span.bytes ⟨start, stop'⟩ buffer))) ∧
    (scan secrets atEnd buffer).consumed ≤ buffer.length ∧
    (atEnd = true → (scan secrets atEnd buffer).consumed = buffer.length) ∧
    ∀ (r : Redactor) (calls : List Redactor.Call),
      (r.passes calls).map Pass.held ++ [(r.run calls).1.pending] =
        r.pending :: (r.passes calls).map (Pass.rest r.secrets) := by
  have hbegin : InBounds secrets atEnd buffer (.scanning 0 []) := .scanning (Nat.zero_le _)
  refine ⟨inBounds_iterate hne hbegin, ?_, fun k out start pos stop hk => ?_,
    scan_consumed_le atEnd buffer, fun hend => hend ▸ scan_consumed_of_atEnd buffer,
    Redactor.held_passes⟩
  · obtain ⟨k, hk, hended⟩ := exists_iterate_eq_ended hne hbegin
    refine ⟨k, hk, hended.trans ?_⟩
    simp [result]
  · have hgrowing := inBounds_iterate hne hbegin k
    rw [hk] at hgrowing
    obtain ⟨n, hn, hends⟩ := growing_ends hne hgrowing
    cases hgrowing with
    | growing hmatch =>
    refine ⟨hmatch, n, hn, ?_⟩
    rw [Nat.add_comm, Function.iterate_add_apply, hk]
    exact hends

/-- Two secrets that overlap, and an empty one that is left out of the set: the end of the span
moves from 3 to 4. -/
theorem scan_in_bounds_overlap :
    let set := SecretSet.ofList ["ab", "", "ba"]
    let buffer := Utf8.encode "xaba"
    let walk := fun k => (step set.bytes true buffer)^[k] (.scanning 0 [])
    (∀ s ∈ set.bytes, s ≠ []) ∧
    walk 2 = .growing (Utf8.encode "x") 1 2 3 ∧ walk 3 = .growing (Utf8.encode "x") 1 3 4 ∧
    InBounds set.bytes true buffer (walk 3) ∧
    (∃ k ≤ 9, walk k = .ended ⟨Utf8.encode "x[REDACTED]", 4⟩) ∧
    (scan set.bytes true buffer).consumed = 4 := by
  intro set buffer walk
  have hne : ∀ s ∈ set.bytes, s ≠ [] := (SecretSet.Assembled.ofList _).bytes_ne_nil
  obtain ⟨hbounds, hended, -, -, hall, -⟩ := scan_in_bounds hne true buffer
  have hscan : scan set.bytes true buffer = ⟨Utf8.encode "x[REDACTED]", 4⟩ := by decide +kernel
  rw [hscan] at hended
  exact ⟨hne, by decide +kernel, by decide +kernel, hbounds 3, hended, hall rfl⟩

/-- Where an empty secret is the longest one, there is no span to replace. -/
example : (step [[]] true (Utf8.encode "x"))^[2] (.scanning 0 []) = .fault := by decide +kernel

end Redaction

end Stepwise
