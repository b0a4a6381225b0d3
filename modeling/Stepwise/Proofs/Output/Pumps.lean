import Stepwise.Output.Pumps
import Stepwise.Proofs.Output.Streams
import Stepwise.Steps.Invocation

/-!
# The pumps lose nothing

Two pumps take turns at one sink. Whatever the turns are, each byte of either stream is in exactly
one place: still to be read, read and not written, or written.

* `Pump.Makes`: which calls a pump can make, with all that is known of it then. What a call keeps is
  derived from that: the bytes (`Makes.rest_eq`), the piece in hand (`Makes.inHand_append`), and
  that work is done (`Makes.work_lt`).
* `Pumps.step_cases`: what a turn does to either pump.
* `Pumps.rest_run`, `inHand_run`, `work_run`: the same for the turns of both pumps.
* `Pumps.forwarded_run`: what was forwarded depends on the writes alone, not on the flushes between
  them.
* `Pumps.result_interleaves`: **the result is an interleaving of the two streams, with its secrets
  hidden**, and there is one as soon as each pump had enough turns.
-/

namespace Stepwise

/-! ## One pump -/

namespace Pump

/-- The calls that a pump can make, when the sink would take this part of its piece. -/
inductive Makes (p : Pump) (part : Bytes) : Call → Prop where
  /-- It reads a piece once the last one is written. -/
  | read {piece : Bytes} (hdone : p.done = false) (hbuffer : p.buffer = []) (hne : piece ≠ [])
      (hpiece : piece <+: p.unread) (hle : piece.length ≤ readLimit) : Makes p part (.read piece)
  /-- It writes what the sink takes. -/
  | write (hdone : p.done = false) (hne : part ≠ []) (hpart : part <+: p.buffer) :
      Makes p part (.write part)
  /-- It flushes when all is written. -/
  | flush (hdone : p.done = false) (hbuffer : p.buffer = []) (hunread : p.unread = []) :
      Makes p part .flush
  | none (hdone : p.done = true) : Makes p part .none

/-- The bytes that a call writes. -/
def Call.written : Call → Bytes
  | .write bytes => bytes
  | .read _ | .flush | .none => []

/-- What a pump has still to write. -/
def rest (p : Pump) : Bytes := p.buffer ++ p.unread

/-- The chunk that a pump has read and has to write next. -/
def inHand (stream : Stream) (p : Pump) : List Chunk :=
  if p.buffer = [] then [] else [⟨stream, p.buffer⟩]

/-- How many calls a pump can still make, at most: to read each byte, to write it, and to flush. -/
def work (p : Pump) : Nat :=
  if p.done then 0 else 2 * p.unread.length + p.buffer.length + 1

/-- A pump that is done has nothing left. -/
def Settled (p : Pump) : Prop := p.done = true → p.rest = []

namespace Makes

variable {p : Pump} {part : Bytes} {c : Call}

/-- **A call writes the next bytes**, and no byte is lost or repeated. -/
theorem rest_eq (h : p.Makes part c) : p.rest = c.written ++ (p.after c).rest := by
  cases h with
  | read _ hbuffer _ hpiece =>
    obtain ⟨unread, hunread⟩ := hpiece
    simp [rest, after, Call.written, hbuffer, ← hunread]
  | write _ _ hpart =>
    obtain ⟨buffer, hbuffer⟩ := hpart
    simp [rest, after, Call.written, ← hbuffer]
  | flush => rfl
  | none => rfl

theorem settled_after (h : p.Makes part c) (hp : p.Settled) : (p.after c).Settled := by
  cases h with
  | read hdone => exact fun h => absurd (hdone.symm.trans h) Bool.false_ne_true
  | write hdone => exact fun h => absurd (hdone.symm.trans h) Bool.false_ne_true
  | flush _ hbuffer hunread => exact fun _ => by simp [rest, after, hbuffer, hunread]
  | none => exact hp

/-- **A call does work**, until the pump is done. -/
theorem work_lt (h : p.Makes part c) : (p.after c).work ≤ p.work - 1 := by
  cases h with
  | read hdone hbuffer hne hpiece =>
    have hle := hpiece.length_le
    have hpos := List.length_pos_iff.mpr hne
    simp only [work, after, hdone, hbuffer, List.length_drop, List.length_nil, Bool.false_eq_true,
      if_false]
    omega
  | write hdone hne hpart =>
    have hle := hpart.length_le
    have hpos := List.length_pos_iff.mpr hne
    simp only [work, after, hdone, List.length_drop, Bool.false_eq_true, if_false]
    omega
  | flush => exact Nat.zero_le _
  | none hdone => simp [work, after, hdone]

/-- **A pump that writes whole pieces** writes the chunks that it reads. -/
theorem inHand_append (h : p.Makes part c) (hwhole : part = p.buffer) (stream : Stream) :
    p.inHand stream ++ (Pumps.readBy? (stream, c)).toList =
      (Pumps.writtenBy? (stream, c)).toList ++ (p.after c).inHand stream := by
  cases h with
  | read _ hbuffer hne => simp [inHand, after, Pumps.readBy?, Pumps.writtenBy?, hbuffer, hne]
  | write _ hne =>
    subst hwhole
    simp [inHand, after, Pumps.readBy?, Pumps.writtenBy?, hne]
  | flush => exact List.append_nil _
  | none => exact List.append_nil _

end Makes

end Pump

/-! ## Two pumps -/

theorem Sink.flush_eq (sink : Sink) : sink.flush = (sink, []) := by
  cases sink <;> rfl

namespace Pumps

variable {stream : Stream}

theorem taken_ne_nil (p : Pumps) (extra : Nat) {buffer : Bytes} (h : buffer ≠ []) :
    p.taken extra buffer ≠ [] := by
  unfold taken
  split
  · exact h
  · split
    · simpa using h
    · exact h

theorem taken_prefix (p : Pumps) (extra : Nat) (buffer : Bytes) :
    p.taken extra buffer <+: buffer := by
  unfold taken
  split
  · exact List.prefix_rfl
  · split
    · exact List.take_prefix _ _
    · exact List.prefix_rfl

/-- **The call of a turn** is one that its pump can make. -/
theorem call_makes (p : Pumps) (t : Turn) :
    (p.pumps t.stream).Makes (p.taken t.extra (p.pumps t.stream).buffer) (p.call t) := by
  unfold call
  by_cases hdone : (p.pumps t.stream).done = true
  · rw [if_pos hdone]
    exact .none hdone
  rw [if_neg hdone]
  rw [Bool.not_eq_true] at hdone
  by_cases hbuffer : (p.pumps t.stream).buffer = []
  · rw [if_neg fun h => h hbuffer]
    by_cases hunread : (p.pumps t.stream).unread = []
    · rw [if_neg fun h => h hunread]
      exact .flush hdone hbuffer hunread
    · rw [if_pos hunread]
      refine .read hdone hbuffer ?_ (List.take_prefix _ _) ?_
      · simpa [readLimit] using hunread
      · exact Nat.le_trans (List.length_take_le _ _) (Nat.min_le_right _ _)
  · rw [if_pos hbuffer]
    exact .write hdone (p.taken_ne_nil _ hbuffer) (p.taken_prefix _ _)

/-- **What a turn does to the pump of a stream**: the call, if it is its turn, and else nothing. -/
theorem step_cases (p : Pumps) (t : Turn) (stream : Stream) :
    (t.stream = stream ∧ (p.step t).pumps stream = (p.pumps stream).after (p.call t) ∧
      (p.pumps stream).Makes (p.taken t.extra (p.pumps stream).buffer) (p.call t)) ∨
    (t.stream ≠ stream ∧ (p.step t).pumps stream = p.pumps stream) := by
  by_cases h : t.stream = stream
  · subst h
    exact .inl ⟨rfl, if_pos rfl, p.call_makes t⟩
  · exact .inr ⟨h, if_neg (Ne.symm h)⟩

/-- The chunks of a turn come before those of the turns after it. -/
theorem filterMap_calls_cons (chunk? : Stream × Pump.Call → Option Chunk) (p : Pumps) (t : Turn)
    (turns : List Turn) :
    (p.calls (t :: turns)).filterMap chunk? =
      (chunk? (t.stream, p.call t)).toList ++ ((p.step t).calls turns).filterMap chunk? := by
  rw [calls, List.filterMap_cons]
  cases chunk? (t.stream, p.call t) <;> rfl

theorem writes_cons (p : Pumps) (t : Turn) (turns : List Turn) :
    p.writes (t :: turns) = (writtenBy? (t.stream, p.call t)).toList ++ (p.step t).writes turns :=
  filterMap_calls_cons writtenBy? p t turns

theorem reads_cons (p : Pumps) (t : Turn) (turns : List Turn) :
    p.reads (t :: turns) = (readBy? (t.stream, p.call t)).toList ++ (p.step t).reads turns :=
  filterMap_calls_cons readBy? p t turns

theorem streamBytes_writtenBy (s : Stream) (c : Pump.Call) :
    streamBytes s (writtenBy? (stream, c)).toList = if stream = s then c.written else [] := by
  cases c <;> by_cases h : stream = s <;> simp [streamBytes, writtenBy?, Pump.Call.written, h]

theorem stream_of_writtenBy {call : Stream × Pump.Call} {c : Chunk} (h : writtenBy? call = some c) :
    c.stream = call.1 := by
  obtain ⟨stream, call⟩ := call
  cases call <;> simp [writtenBy?] at h
  rw [← h]

theorem stream_of_readBy {call : Stream × Pump.Call} {c : Chunk} (h : readBy? call = some c) :
    c.stream = call.1 := by
  obtain ⟨stream, call⟩ := call
  cases call <;> simp [readBy?] at h
  rw [← h]

/-! ## Bytes -/

/-- What a turn writes is what its pump has less to write. -/
theorem rest_step (p : Pumps) (t : Turn) (stream : Stream) :
    (p.pumps stream).rest =
      streamBytes stream (writtenBy? (t.stream, p.call t)).toList ++
        ((p.step t).pumps stream).rest := by
  rw [streamBytes_writtenBy]
  rcases p.step_cases t stream with ⟨hs, hpump, hmakes⟩ | ⟨hs, hpump⟩
  · rw [if_pos hs, hpump]
    exact hmakes.rest_eq
  · rw [if_neg hs, hpump, List.nil_append]

/-- **What is written of a stream** comes first, and the rest after it. -/
theorem rest_run (p : Pumps) (turns : List Turn) (stream : Stream) :
    (p.pumps stream).rest =
      streamBytes stream (p.writes turns) ++ ((p.run turns).pumps stream).rest := by
  induction turns generalizing p with
  | nil => rfl
  | cons t turns ih =>
    rw [writes_cons, streamBytes_append, List.append_assoc]
    rw [show p.run (t :: turns) = (p.step t).run turns from rfl, ← ih]
    exact p.rest_step t stream

theorem settled_step {p : Pumps} (t : Turn) {stream : Stream} (h : (p.pumps stream).Settled) :
    ((p.step t).pumps stream).Settled := by
  rcases p.step_cases t stream with ⟨-, hpump, hmakes⟩ | ⟨-, hpump⟩
  · rw [hpump]
    exact hmakes.settled_after h
  · rwa [hpump]

theorem settled_run {p : Pumps} {stream : Stream} (h : (p.pumps stream).Settled)
    (turns : List Turn) :
    ((p.run turns).pumps stream).Settled := by
  induction turns generalizing p with
  | nil => exact h
  | cons t turns ih => exact ih (settled_step t h)

/-! ## Chunks -/

/-- Whether the pumps write whole pieces: a redactor takes them, and so does a sink that is not
given back in between. -/
def Whole (p : Pumps) : Prop := p.watched = true → p.sink ≠ .plain

theorem Whole.taken_eq {p : Pumps} (h : p.Whole) (extra : Nat) (buffer : Bytes) :
    p.taken extra buffer = buffer := by
  unfold taken
  split
  · rfl
  · rename_i hplain
    rw [if_neg fun hwatched => h hwatched hplain]

theorem Whole.step {p : Pumps} (h : p.Whole) (t : Turn) : (p.step t).Whole := by
  intro hwatched
  show (p.sink.answer (p.call t)).1 ≠ .plain
  cases hs : p.sink with
  | plain => exact absurd hs (h hwatched)
  | redacting r => cases p.call t <;> exact nofun

/-- Of one chunk, those of a stream. -/
theorem filter_toList {chunk? : Option Chunk} (h : ∀ c, chunk? = some c → c.stream = stream)
    (s : Stream) :
    chunk?.toList.filter (·.stream = s) = if stream = s then chunk?.toList else [] := by
  cases chunk? with
  | none => simp
  | some c => by_cases hs : stream = s <;> simp [h c rfl, hs]

/-- The chunks that a turn reads and writes of a stream, with those that its pump has in hand. -/
theorem inHand_step {p : Pumps} (h : p.Whole) (t : Turn) (stream : Stream) :
    (p.pumps stream).inHand stream ++
        (readBy? (t.stream, p.call t)).toList.filter (·.stream = stream) =
      (writtenBy? (t.stream, p.call t)).toList.filter (·.stream = stream) ++
        ((p.step t).pumps stream).inHand stream := by
  rw [filter_toList (fun _ => stream_of_readBy), filter_toList (fun _ => stream_of_writtenBy)]
  rcases p.step_cases t stream with ⟨hs, hpump, hmakes⟩ | ⟨hs, hpump⟩
  · rw [if_pos hs, if_pos hs, hpump, hs]
    exact hmakes.inHand_append (h.taken_eq _ _) stream
  · rw [if_neg hs, if_neg hs, hpump, List.append_nil, List.nil_append]

/-- **The chunks that are written of a stream** are those that are read of it, but for the one in
hand. -/
theorem inHand_run {p : Pumps} (h : p.Whole) (turns : List Turn) (stream : Stream) :
    (p.pumps stream).inHand stream ++ (p.reads turns).filter (·.stream = stream) =
      (p.writes turns).filter (·.stream = stream) ++
        ((p.run turns).pumps stream).inHand stream := by
  induction turns generalizing p with
  | nil => exact List.append_nil _
  | cons t turns ih =>
    rw [reads_cons, writes_cons, List.filter_append, List.filter_append, ← List.append_assoc,
      inHand_step h t stream, List.append_assoc, ih (h.step t), List.append_assoc]
    rfl

/-! ## The end -/

/-- **Each turn of a pump does work**, until it is done. -/
theorem work_run (p : Pumps) (turns : List Turn) (stream : Stream) :
    ((p.run turns).pumps stream).work ≤
      (p.pumps stream).work - turns.countP (·.stream = stream) := by
  induction turns generalizing p with
  | nil => exact Nat.le_refl _
  | cons t turns ih =>
    have hrun : ((p.run (t :: turns)).pumps stream).work ≤
        ((p.step t).pumps stream).work - turns.countP (·.stream = stream) := ih (p.step t)
    rcases p.step_cases t stream with ⟨hs, hpump, hmakes⟩ | ⟨hs, hpump⟩
    · have hwork := hmakes.work_lt
      rw [hpump] at hrun
      rw [List.countP_cons_of_pos (by simp [hs])]
      omega
    · rw [hpump] at hrun
      rwa [List.countP_cons_of_neg (by simpa using hs)]

/-- What a turn forwards is what the sink forwards of its write. -/
theorem forwarded_step (p : Pumps) (t : Turn) (later : List Chunk) :
    p.forwarded ++ p.sink.copy ((writtenBy? (t.stream, p.call t)).toList ++ later) =
      (p.step t).forwarded ++ (p.step t).sink.copy later := by
  show _ = (p.forwarded ++ (p.sink.answer (p.call t)).2) ++ (p.sink.answer (p.call t)).1.copy later
  rw [List.append_assoc]
  cases p.call t with
  | read => rfl
  | write => rfl
  | flush => rw [Sink.answer, Sink.flush_eq]; rfl
  | none => rfl

/-- **What is forwarded in all depends on the writes alone**: the flushes of the pumps release
nothing. -/
theorem forwarded_run (p : Pumps) (turns : List Turn) :
    (p.run turns).forwarded ++ (p.run turns).sink.finish =
      p.forwarded ++ p.sink.copy (p.writes turns) := by
  induction turns generalizing p with
  | nil => rfl
  | cons t turns ih => rw [writes_cons, forwarded_step, ← ih]; rfl

theorem done_of_result? {p : Pumps} {shown : Bytes} (h : p.result? = some shown) :
    (∀ stream, (p.pumps stream).done = true) ∧ p.forwarded ++ p.sink.finish = shown := by
  unfold result? at h
  split at h
  · rename_i hdone
    rw [Bool.and_eq_true] at hdone
    refine ⟨fun stream => ?_, Option.some.inj h⟩
    cases stream with
    | output => exact hdone.1
    | error => exact hdone.2
  · cases h

theorem isSome_result? {p : Pumps} (h : ∀ stream, (p.pumps stream).work = 0) :
    p.result?.isSome := by
  have hdone : ∀ stream, (p.pumps stream).done = true := fun stream => by
    have hwork := h stream
    unfold Pump.work at hwork
    split at hwork
    · assumption
    · exact absurd hwork (Nat.succ_ne_zero _)
  rw [result?, hdone, hdone]
  rfl

/-- **Nothing is lost or reordered.** Whatever the turns of the two pumps are, there is a result
once each pump had turns enough to read and write every byte of its stream and to flush. Then the
chunks that were written, in the order in which the pumps got hold of the sink, hold each byte of
either stream once and in its order, and the result is their bytes with the secrets hidden. They are
the chunks that were read, if there is something to hide or the pumps are not watched. A process
whose output arrives in these chunks has the same output. -/
theorem result_interleaves (secrets : Option SecretSet) (watched : Bool) (streams : Stream → Bytes)
    (turns : List Turn) :
    let before := Pumps.start secrets watched streams
    let chunks := before.writes turns
    ((∀ stream, 2 * (streams stream).length < turns.countP (·.stream = stream)) →
      (before.run turns).result?.isSome) ∧
    ∀ shown, (before.run turns).result? = some shown →
      Interleaves (streams .output) (streams .error) (mergedBytes chunks) ∧
      shown = hidden secrets (mergedBytes chunks) ∧
      (∀ stream, streamBytes stream chunks = streams stream) ∧
      (secrets.isSome ∨ watched = false → ∀ stream,
        chunks.filter (·.stream = stream) = (before.reads turns).filter (·.stream = stream)) ∧
      ∀ (i : Invocation) (b : Behaviour), i.secrets = secrets → b.chunks = chunks →
        (i.runOf b).output = shown := by
  intro before chunks
  refine ⟨fun henough => isSome_result? fun stream => ?_, fun shown hresult => ?_⟩
  · have hwork := before.work_run turns stream
    have hstart : (before.pumps stream).work = 2 * (streams stream).length + 1 := rfl
    have := henough stream
    omega
  obtain ⟨hdone, hshown⟩ := done_of_result? hresult
  -- both pumps are done, so all of each stream is written
  have hrest : ∀ stream, ((before.run turns).pumps stream).rest = [] := fun stream =>
    settled_run (p := before) (fun h => absurd h Bool.false_ne_true) turns (hdone stream)
  have hstreams : ∀ stream, streamBytes stream chunks = streams stream := fun stream => by
    have hrun := before.rest_run turns stream
    rw [hrest, List.append_nil] at hrun
    exact hrun.symm
  have hcopy : shown = hidden secrets (mergedBytes chunks) := by
    rw [← hshown, forwarded_run, ← Sink.copy_of]
    rfl
  refine ⟨?_, hcopy, hstreams, fun hwhole stream => ?_, fun i b hi hb => ?_⟩
  · rw [← hstreams, ← hstreams]
    exact interleaves_mergedBytes chunks
  · have hwhole' : before.Whole := by
      rintro (rfl : watched = true)
      cases secrets with
      | none => simp at hwhole
      | some set => exact nofun
    have hrun := inHand_run hwhole' turns stream
    have hempty : (before.pumps stream).inHand stream = [] := rfl
    have hbuffer := (List.append_eq_nil_iff.mp (hrest stream)).1
    rw [hempty, Pump.inHand, if_pos hbuffer, List.append_nil] at hrun
    exact hrun.symm
  · rw [Invocation.runOf, hi, hb, Sink.copy_of, hcopy]

/-- A secret that is read in two pieces, the other stream after it. -/
theorem result_interleaves_cut :
    let streams : Stream → Bytes :=
      fun stream => Utf8.encode (if stream = .output then "abc" else "x")
    let turns : List Turn := [⟨.output, 1⟩, ⟨.error, 0⟩, ⟨.output, 0⟩, ⟨.output, 8⟩, ⟨.output, 0⟩,
      ⟨.error, 0⟩, ⟨.output, 0⟩, ⟨.error, 0⟩, ⟨.output, 0⟩, ⟨.output, 0⟩]
    let before := Pumps.start (some ⟨["abc"]⟩) true streams
    before.writes turns =
      [⟨.output, Utf8.encode "ab"⟩, ⟨.output, Utf8.encode "c"⟩, ⟨.error, Utf8.encode "x"⟩] ∧
    ∃ shown, (before.run turns).result? = some shown ∧
      Interleaves (streams .output) (streams .error) (Utf8.encode "abcx") ∧
      shown = SecretSet.redactBytes ⟨["abc"]⟩ (Utf8.encode "abcx") := by
  intro streams turns before
  have hwrites : before.writes turns =
      [⟨.output, Utf8.encode "ab"⟩, ⟨.output, Utf8.encode "c"⟩, ⟨.error, Utf8.encode "x"⟩] := by
    decide +kernel
  have hmerged : mergedBytes (before.writes turns) = Utf8.encode "abcx" := by
    rw [hwrites]
    decide +kernel
  obtain ⟨hsome, hresult⟩ := result_interleaves (some ⟨["abc"]⟩) true streams turns
  obtain ⟨shown, hshown⟩ :=
    Option.isSome_iff_exists.mp (hsome fun stream => by cases stream <;> decide +kernel)
  obtain ⟨hinterleaves, hhidden, -⟩ := hresult shown hshown
  rw [hmerged] at hinterleaves hhidden
  exact ⟨hwrites, shown, hshown, hinterleaves, hhidden⟩

end Pumps

end Stepwise
