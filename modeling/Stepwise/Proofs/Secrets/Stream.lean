import Stepwise.Proofs.Secrets.Front
import Stepwise.Secrets.Redactor
import Stepwise.Secrets.Set

/-!
# Redaction of a stream and of a whole byte string

A stream is written in pieces, and a redactor scans what it holds again with every piece. This
module shows that the pieces do not matter.

* `Redaction.shown`, `Redaction.held`: what an open stream shows of the bytes written to it, and
  what it holds back of them.
* `shown_append`, `held_append`, `redact_append`: the state of a stream after more bytes depends on
  what it holds, and what it showed stays right.
* `Redactor.Ledger` keeps account of a run: for each stretch between two closes, what was written
  and what was forwarded.
* `Redactor.run_agrees`: **an open stretch shows and holds a function of the bytes written since the
  last close, and a closed one forwarded its bytes as a whole string is redacted.**
-/

namespace Stepwise

namespace Redaction

variable (secrets : List Bytes)

/-- What an open stream shows of the bytes written to it. -/
def shown (written : Bytes) : Bytes := (scan secrets false written).output

/-- What an open stream holds back of the bytes written to it. -/
def held (written : Bytes) : Bytes := written.drop (scan secrets false written).consumed

theorem shown_append (written more : Bytes) :
    shown secrets (written ++ more) =
      shown secrets written ++ shown secrets (held secrets written ++ more) := by
  unfold shown held
  rw [scan_append]

theorem held_append (written more : Bytes) :
    held secrets (written ++ more) = held secrets (held secrets written ++ more) := by
  unfold held
  rw [scan_append, ← List.drop_drop, List.drop_append_of_le_length (scan_consumed_le false written)]

/-- **What an open stream shows is the beginning of the redacted whole**, and the rest is decided by
what it holds. -/
theorem redact_append (written more : Bytes) :
    redact secrets (written ++ more) =
      shown secrets written ++ redact secrets (held secrets written ++ more) := by
  unfold redact shown held
  rw [scan_append]

theorem redact_eq_shown_append (written : Bytes) :
    redact secrets written = shown secrets written ++ redact secrets (held secrets written) := by
  simpa using redact_append secrets written []

theorem shown_no_secrets (written : Bytes) : shown [] written = written := by
  unfold shown
  rw [scan_no_secrets]

theorem held_no_secrets (written : Bytes) : held [] written = [] := by
  unfold held
  rw [scan_no_secrets, List.drop_length]

@[simp]
theorem shown_nil : shown secrets [] = [] := by simp [shown]

@[simp]
theorem held_nil : held secrets [] = [] := by simp [held]

end Redaction

namespace Redactor

open Redaction (shown held)

/-! ## Single calls -/

/-- **A write** to a stream that holds what it has to hold: it holds what it has to hold of the
longer stream, and forwards what that stream shows in addition. -/
theorem write_of_held {r : Redactor} {written : Bytes} (h : r.pending = held r.secrets written)
    (more : Bytes) :
    (r.write more).1 = { r with pending := held r.secrets (written ++ more) } ∧
      shown r.secrets written ++ (r.write more).2 = shown r.secrets (written ++ more) := by
  unfold write
  by_cases he : r.secrets.isEmpty = true
  · rw [if_pos he]
    rw [List.isEmpty_iff] at he
    rw [he, Redaction.held_no_secrets] at h
    rw [he, Redaction.held_no_secrets, Redaction.shown_no_secrets, Redaction.shown_no_secrets,
      ← he, ← h]
    exact ⟨rfl, rfl⟩
  · rw [if_neg he, Redaction.held_append, Redaction.shown_append, ← h]
    exact ⟨rfl, rfl⟩

/-- **A close** leaves nothing held and completes the redacted whole. -/
theorem close_of_held {r : Redactor} {written : Bytes} (h : r.pending = held r.secrets written) :
    r.close.1 = { r with pending := [] } ∧
      shown r.secrets written ++ r.close.2 = Redaction.redact r.secrets written := by
  rw [Redaction.redact_eq_shown_append, ← h]
  refine ⟨?_, rfl⟩
  show { r with pending := r.pending.drop (Redaction.scan r.secrets true r.pending).consumed } = _
  rw [Redaction.scan_consumed_of_atEnd, List.drop_length]

/-! ## What a run writes and forwards -/

/-- The bytes that a call writes. -/
def Call.bytes : Call → Bytes
  | .write bytes => bytes
  | .flush => []
  | .close => []

/-- A part of a run without a close: what was written to the stream, and what it forwarded. -/
structure Stretch where
  written : Bytes := []
  forwarded : Bytes := []
  deriving DecidableEq

/-- A stream with an account of its use. -/
structure Ledger where
  redactor : Redactor
  /-- What happened since the last close. -/
  current : Stretch := {}
  /-- What happened up to each close, from the one before it on. -/
  closed : List Stretch := []
  deriving DecidableEq

namespace Ledger

/-- A new stream for a set of secrets. -/
def start (set : SecretSet) : Ledger where
  redactor := { secrets := set.bytes }

/-- The account after a call. -/
def call (l : Ledger) (c : Call) : Ledger :=
  let (redactor, out) := l.redactor.call c
  let current := ⟨l.current.written ++ c.bytes, l.current.forwarded ++ out⟩
  match c with
  | .close => { redactor, closed := l.closed ++ [current] }
  | _ => { l with redactor, current }

/-- The account after a list of calls. -/
def run (l : Ledger) (calls : List Call) : Ledger :=
  calls.foldl call l

/-- All stretches of a run, the open one last. -/
def stretches (l : Ledger) : List Stretch :=
  l.closed ++ [l.current]

/-- **The account of a run is one of that run**: it ends in the same state, and its stretches make
up what the calls write and what they forward. -/
theorem run_account (l : Ledger) (calls : List Call) :
    (l.run calls).redactor = (l.redactor.run calls).1 ∧
    (l.run calls).stretches.flatMap (·.written) =
      l.stretches.flatMap (·.written) ++ calls.flatMap Call.bytes ∧
    (l.run calls).stretches.flatMap (·.forwarded) =
      l.stretches.flatMap (·.forwarded) ++ (l.redactor.run calls).2 := by
  induction calls generalizing l with
  | nil => simp [run, Redactor.run]
  | cons c cs ih =>
    obtain ⟨hstate, hwritten, hforwarded⟩ := ih (l.call c)
    have hcall : (l.call c).redactor = (l.redactor.call c).1 ∧
        (l.call c).stretches.flatMap (·.written) = l.stretches.flatMap (·.written) ++ c.bytes ∧
        (l.call c).stretches.flatMap (·.forwarded) =
          l.stretches.flatMap (·.forwarded) ++ (l.redactor.call c).2 := by
      cases c <;> simp [call, stretches, Redactor.call]
    obtain ⟨hr, hw, hf⟩ := hcall
    show ((l.call c).run cs).redactor = _ ∧ ((l.call c).run cs).stretches.flatMap _ = _ ∧
      ((l.call c).run cs).stretches.flatMap _ = _
    rw [hstate, hwritten, hforwarded, hr, hw, hf]
    simp [Redactor.run]

/-- Without a close there is one stretch. -/
theorem closed_run {l : Ledger} {calls : List Call} (h : Call.close ∉ calls) :
    (l.run calls).closed = l.closed := by
  induction calls generalizing l with
  | nil => rfl
  | cons c cs ih =>
    rw [List.mem_cons, not_or] at h
    show ((l.call c).run cs).closed = l.closed
    rw [ih h.2]
    cases c with
    | write => rfl
    | flush => rfl
    | close => exact absurd rfl h.1

/-- What it holds is what was written, and what was forwarded. -/
theorem current_run (set : SecretSet) {calls : List Call} (h : Call.close ∉ calls) :
    ((start set).run calls).current =
      ⟨calls.flatMap Call.bytes, (Redactor.run { secrets := set.bytes } calls).2⟩ := by
  obtain ⟨-, hwritten, hforwarded⟩ := (start set).run_account calls
  have hone : ((start set).run calls).stretches = [((start set).run calls).current] := by
    rw [stretches, closed_run h]
    rfl
  simp only [hone, List.flatMap_singleton] at hwritten hforwarded
  rw [show calls.flatMap Call.bytes = _ from hwritten.symm,
    show (Redactor.run { secrets := set.bytes } calls).2 = _ from hforwarded.symm]

/-! ## The pieces do not matter -/

/-- The account of a stream for `secrets` in which every stretch forwarded what the bytes written
to it decide. -/
structure Settled (secrets : List Bytes) (l : Ledger) : Prop where
  secrets_eq : l.redactor.secrets = secrets
  pending_eq : l.redactor.pending = held secrets l.current.written
  forwarded_eq : l.current.forwarded = shown secrets l.current.written
  closed_eq : ∀ s ∈ l.closed, s.forwarded = Redaction.redact secrets s.written

theorem settled_start (set : SecretSet) : Settled set.bytes (start set) where
  secrets_eq := rfl
  pending_eq := by simp [start]
  forwarded_eq := by simp [start]
  closed_eq := fun _ hs => absurd hs List.not_mem_nil

/-- **One call keeps the account settled.** -/
theorem settled_call {secrets : List Bytes} {l : Ledger} (h : Settled secrets l) (c : Call) :
    Settled secrets (l.call c) := by
  obtain ⟨rfl, hpending, hforwarded, hclosed⟩ := h
  cases c with
  | write bytes =>
    obtain ⟨hstate, hout⟩ := write_of_held hpending bytes
    refine ⟨?_, ?_, ?_, hclosed⟩
    · simp only [call, Redactor.call, hstate]
    · simp only [call, Redactor.call, Call.bytes, hstate]
    · simp only [call, Redactor.call, Call.bytes, hforwarded, hout]
  | flush =>
    refine ⟨rfl, ?_, ?_, hclosed⟩
    · simpa [call, Redactor.call, Call.bytes] using hpending
    · simpa [call, Redactor.call, Call.bytes] using hforwarded
  | close =>
    obtain ⟨hstate, hout⟩ := close_of_held hpending
    refine ⟨?_, ?_, ?_, fun s hs => ?_⟩
    · simp only [call, Redactor.call, hstate]
    · simp [call, Redactor.call, hstate]
    · simp [call]
    · rcases List.mem_append.mp hs with hs | hs
      · exact hclosed s hs
      · obtain rfl := List.mem_singleton.mp hs
        show l.current.forwarded ++ l.redactor.close.2 =
          Redaction.redact l.redactor.secrets (l.current.written ++ [])
        rw [hforwarded, hout, List.append_nil]

/-- A run keeps the account settled. -/
theorem settled_run {secrets : List Bytes} {l : Ledger} (h : Settled secrets l)
    (calls : List Call) : Settled secrets (l.run calls) := by
  induction calls generalizing l with
  | nil => exact h
  | cons c cs ih => exact ih (settled_call h c)

end Ledger

/-- **The pieces of a stream do not matter.** After any calls, what was forwarded since the last
close and what is held are what the bytes written since then decide, however they were cut and
whenever the stream was flushed. Each closed stretch forwarded its bytes as a whole string is
redacted; closing now would do the same for the open one and leave nothing held. -/
theorem run_agrees (set : SecretSet) (calls : List Call) :
    let after := Redactor.run { secrets := set.bytes } calls
    let l := (Ledger.start set).run calls
    (l.redactor = after.1 ∧ l.stretches.flatMap (·.forwarded) = after.2 ∧
      l.stretches.flatMap (·.written) = calls.flatMap Call.bytes) ∧
    (l.current.forwarded = shown set.bytes l.current.written ∧
      after.1.pending = held set.bytes l.current.written) ∧
    (∀ others, ((Ledger.start set).run others).current.written = l.current.written →
      ((Ledger.start set).run others).current.forwarded = l.current.forwarded ∧
      (Redactor.run { secrets := set.bytes } others).1.pending = after.1.pending) ∧
    (∀ s ∈ l.closed, s.forwarded = set.redactBytes s.written) ∧
    (after.1.close.1.pending = [] ∧
      l.current.forwarded ++ after.1.close.2 = set.redactBytes l.current.written) := by
  intro after l
  have hsettled := fun cs => Ledger.settled_run (Ledger.settled_start set) cs
  have hpending : ∀ cs, (Redactor.run { secrets := set.bytes } cs).1.pending =
      held set.bytes ((Ledger.start set).run cs).current.written := fun cs => by
    rw [← (hsettled cs).pending_eq, ((Ledger.start set).run_account cs).1]
    rfl
  obtain ⟨hstate, hwritten, hforwarded⟩ := (Ledger.start set).run_account calls
  obtain ⟨hsecrets, hheld, hshown, hclosed⟩ := hsettled calls
  have hclose := close_of_held (hheld.trans (by rw [hsecrets]))
  rw [hsecrets, ← hshown] at hclose
  refine ⟨⟨hstate, hforwarded, hwritten⟩, ⟨hshown, hpending calls⟩, fun others hothers => ?_,
    hclosed, ?_⟩
  · rw [(hsettled others).forwarded_eq, hpending, hpending, hothers]
    exact ⟨hshown.symm, rfl⟩
  · show (Redactor.run { secrets := set.bytes } calls).1.close.1.pending = [] ∧ _
    rw [show (Redactor.run { secrets := set.bytes } calls).1 = _ from hstate.symm, hclose.1]
    exact ⟨rfl, hclose.2⟩

end Redactor

end Stepwise
