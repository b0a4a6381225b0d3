import Mathlib.Data.List.TakeWhile
import Stepwise.Silence.Detector

/-!
# What a detector counts

A detector keeps a word and two flags. What they say at any moment is told here from the events
alone: from where the first start, the last write and the stops are, and from the ticks between
them.

* `silence`: the ticks after the first start and after the last write.
* `Due`, `WasDue`: the next tick, or one of those that came, completes the limit.
* `Tracks`: a detector is in the state that the events tell. Its count is the silence and never
  passes the limit, so the word does not begin again at 0.
* `Tracks.after`: **every event keeps it so**.
* `Tracks.firesNext_iff`: **a detector fires at the first tick that is due**, and at no other.
-/

namespace Stepwise

theorem countAfter_eq {n : Nat} (h : n < maxCount) : countAfter n = n + 1 :=
  Nat.mod_eq_of_lt (Nat.succ_lt_succ h)

namespace Detector

/-! ## Silence -/

/-- How many ticks came after the first start and after the last write. -/
def silence (events : List Event) : Nat :=
  ((events.dropWhile (· ≠ .start)).reverse.takeWhile (· ≠ .write)).count .tick

theorem dropWhile_concat_of_mem {events : List Event} (h : .start ∈ events) (e : Event) :
    (events ++ [e]).dropWhile (· ≠ .start) = events.dropWhile (· ≠ .start) ++ [e] := by
  have hne : events.dropWhile (· ≠ .start) ≠ [] := fun hnil =>
    absurd (List.dropWhile_eq_nil_iff.mp hnil .start h) (by simp)
  rw [List.dropWhile_append, if_neg (by simpa using hne)]

theorem dropWhile_of_notMem {events : List Event} (h : .start ∉ events) :
    events.dropWhile (· ≠ .start) = [] :=
  List.dropWhile_eq_nil_iff.mpr fun e he => by simpa using fun heq : e = .start => h (heq ▸ he)

/-- Before the first start there is no silence. -/
theorem silence_of_notMem {events : List Event} (h : .start ∉ events) : silence events = 0 := by
  rw [silence, dropWhile_of_notMem h]
  rfl

/-- **One more event** and the silence: a write breaks it, a tick makes it longer. -/
theorem silence_concat (events : List Event) (e : Event) :
    silence (events ++ [e]) = match e with
      | .write => 0
      | .tick => if .start ∈ events then silence events + 1 else 0
      | .start | .stop => silence events := by
  by_cases h : .start ∈ events
  · unfold silence
    rw [dropWhile_concat_of_mem h, List.reverse_append]
    cases e <;> simp [h]
  · cases e with
    | start =>
      rw [silence_of_notMem h, silence, List.dropWhile_append, dropWhile_of_notMem h]
      simp
    | stop => rw [silence_of_notMem h, silence_of_notMem (by simpa using h)]
    | tick =>
      have hnot : .start ∉ events ++ [Event.tick] := by simpa using h
      simpa [h] using silence_of_notMem hnot
    | write => exact silence_of_notMem (by simpa using h)

/-- Once started, a detector is silent for one tick more with each tick. -/
theorem silence_concat_tick {events : List Event} (h : .start ∈ events) :
    silence (events ++ [.tick]) = silence events + 1 := by
  rw [silence_concat]
  exact if_pos h

/-! ## Ticks that are due -/

/-- In a detector that was started and not stopped, the next tick after `events` completes the
limit. A limit of 0 is completed by the first tick. -/
structure Due (limit : Nat) (events : List Event) : Prop where
  started : .start ∈ events
  notStopped : .stop ∉ events
  silent : max limit 1 ≤ silence (events ++ [.tick])

/-- A tick that was due is among `events`. -/
def WasDue (limit : Nat) (events : List Event) : Prop :=
  ∃ earlier, earlier ++ [.tick] <+: events ∧ Due limit earlier

variable {limit : Nat} {events : List Event} {d : Detector}

theorem not_wasDue_nil : ¬ WasDue limit [] := by
  rintro ⟨earlier, hinit, -⟩
  exact absurd (List.prefix_nil.mp hinit) (by simp)

theorem wasDue_concat (e : Event) :
    WasDue limit (events ++ [e]) ↔ WasDue limit events ∨ (e = .tick ∧ Due limit events) := by
  unfold WasDue
  constructor
  · rintro ⟨earlier, hinit, hdue⟩
    rcases List.prefix_concat_iff.mp hinit with heq | hinit
    · obtain ⟨rfl, htick⟩ := List.append_inj' heq rfl
      exact Or.inr ⟨(List.cons.inj htick).1.symm, hdue⟩
    · exact Or.inl ⟨earlier, hinit, hdue⟩
  · rintro (⟨earlier, hinit, hdue⟩ | ⟨rfl, hdue⟩)
    · exact ⟨earlier, hinit.trans (List.prefix_append _ _), hdue⟩
    · exact ⟨events, List.prefix_refl _, hdue⟩

/-- An event that is no tick was not due. -/
theorem wasDue_concat_of_ne {e : Event} (h : e ≠ .tick) :
    WasDue limit (events ++ [e]) ↔ WasDue limit events := by
  simp [wasDue_concat, h]

/-! ## The state of a detector -/

theorem stopped_of_isRunning (h : d.isRunning = true) : d.stopped = false := by
  unfold isRunning at h
  simpa using (Bool.and_eq_true_iff.mp h).2

theorem not_isRunning_of_stopped (h : d.stopped = true) : d.isRunning = false := by
  rw [isRunning, h, Bool.not_true, Bool.and_false]

/-- A start is nothing to what was stopped or sent. -/
theorem after_start_flags (d : Detector) :
    (d.after .start).stopped = d.stopped ∧ (d.after .start).waiting = d.waiting := by
  by_cases h : d.started = true
  · rw [show d.after .start = d from if_pos h]
    exact ⟨rfl, rfl⟩
  · rw [show d.after .start = { d with started := true, routines := d.routines + 1 } from if_neg h]
    exact ⟨rfl, rfl⟩

/-- A stopped detector stays stopped. -/
theorem stopped_after (h : d.stopped = true) (e : Event) : (d.after e).stopped = true := by
  cases e with
  | start => rw [(after_start_flags d).1, h]
  | stop => rfl
  | tick => rwa [show d.after .tick = d from if_neg (by simp [not_isRunning_of_stopped h])]
  | write => exact h

/-- A detector of a limit is in the state that the events so far tell. -/
structure Tracks (limit : Nat) (events : List Event) (d : Detector) : Prop where
  limit_eq : d.limit = limit
  started : d.started = true ↔ .start ∈ events
  routines : d.routines = if .start ∈ events then 1 else 0
  stopped : d.stopped = true ↔ .stop ∈ events ∨ WasDue limit events
  /-- Until it is stopped, the count is the silence, which has not come to the limit. -/
  ticks : d.stopped = false → d.ticks = silence events ∧ silence events < max limit 1
  bound : d.ticks ≤ max limit 1

namespace Tracks

theorem isRunning_iff (h : Tracks limit events d) :
    d.isRunning = true ↔ .start ∈ events ∧ .stop ∉ events ∧ ¬ WasDue limit events := by
  have hstopped : d.stopped = false ↔ .stop ∉ events ∧ ¬ WasDue limit events := by
    rw [← not_or, ← h.stopped, Bool.not_eq_true]
  unfold isRunning
  rw [Bool.and_eq_true, decide_eq_true_eq, Bool.not_eq_true', hstopped, h.routines]
  by_cases hstart : .start ∈ events <;> simp [hstart]

/-- **The word does not begin again**: while a detector runs, one more tick is one more. -/
theorem countAfter_ticks (h : Tracks limit events d) (hlimit : limit ≤ maxCount)
    (hrun : d.isRunning = true) : countAfter d.ticks = silence events + 1 := by
  obtain ⟨hticks, hlt⟩ := h.ticks (stopped_of_isRunning hrun)
  have hmax : 1 ≤ maxCount := by decide
  rw [hticks, countAfter_eq (by omega)]

/-- A running detector comes to its limit with a tick that is due. -/
theorem reachesLimit_iff (h : Tracks limit events d) (hlimit : limit ≤ maxCount)
    (hrun : d.isRunning = true) : d.reachesLimit = true ↔ Due limit events := by
  obtain ⟨hstart, hstop, -⟩ := h.isRunning_iff.mp hrun
  unfold reachesLimit
  rw [h.countAfter_ticks hlimit hrun, h.limit_eq, decide_eq_true_eq]
  have hsilence := silence_concat_tick hstart
  constructor
  · intro hle
    exact ⟨hstart, hstop, by omega⟩
  · intro hdue
    have := hdue.silent
    omega

theorem start (h : Tracks limit events d) : Tracks limit (events ++ [.start]) (d.after .start) := by
  have hwas : WasDue limit (events ++ [.start]) ↔ WasDue limit events :=
    wasDue_concat_of_ne (by decide)
  have hsilence : silence (events ++ [.start]) = silence events := silence_concat events .start
  by_cases hd : d.started = true
  · have hstate : d.after .start = d := if_pos hd
    have hmem : .start ∈ events := h.started.mp hd
    rw [hstate]
    exact {
      limit_eq := h.limit_eq
      started := by simp [hd]
      routines := by simp [h.routines, hmem]
      stopped := by simpa [hwas] using h.stopped
      ticks := by simpa [hsilence] using h.ticks
      bound := h.bound }
  · have hstate : d.after .start = { d with started := true, routines := d.routines + 1 } :=
      if_neg hd
    have hmem : .start ∉ events := fun hmem => hd (h.started.mpr hmem)
    rw [hstate]
    exact {
      limit_eq := h.limit_eq
      started := by simp
      routines := by simp [h.routines, hmem]
      stopped := by simpa [hwas] using h.stopped
      ticks := by simpa [hsilence] using h.ticks
      bound := h.bound }

theorem stop (h : Tracks limit events d) : Tracks limit (events ++ [.stop]) (d.after .stop) where
  limit_eq := h.limit_eq
  started := by simpa [Detector.after] using h.started
  routines := by simpa [Detector.after] using h.routines
  stopped := by simp [Detector.after]
  ticks := nofun
  bound := h.bound

theorem write (h : Tracks limit events d) : Tracks limit (events ++ [.write]) (d.after .write) := by
  have hwas : WasDue limit (events ++ [.write]) ↔ WasDue limit events :=
    wasDue_concat_of_ne (by decide)
  have hsilence : silence (events ++ [.write]) = 0 := silence_concat events .write
  exact {
    limit_eq := h.limit_eq
    started := by simpa [Detector.after] using h.started
    routines := by simpa [Detector.after] using h.routines
    stopped := by simpa [Detector.after, hwas] using h.stopped
    ticks := fun _ => by
      rw [hsilence]
      exact ⟨rfl, Nat.lt_of_lt_of_le Nat.one_pos (Nat.le_max_right _ _)⟩
    bound := Nat.zero_le _ }

/-- A tick that nobody takes leaves everything as it is. -/
theorem tick_of_not_isRunning (h : Tracks limit events d) (hrun : ¬ d.isRunning = true) :
    Tracks limit (events ++ [.tick]) (d.after .tick) := by
  have hstate : d.after .tick = d := if_neg hrun
  rw [hstate]
  refine ⟨h.limit_eq, by simpa using h.started, by simpa using h.routines, ?_, fun hs => ?_,
    h.bound⟩
  · -- a tick that is due finds the detector running, unless one was due before
    have hdue : Due limit events → WasDue limit events := fun hdue => by
      by_contra hnot
      exact hrun (h.isRunning_iff.mpr ⟨hdue.started, hdue.notStopped, hnot⟩)
    rw [wasDue_concat, h.stopped]
    simp only [List.mem_append, List.mem_singleton, reduceCtorEq, or_false, true_and]
    exact or_congr_right (or_iff_left_of_imp hdue).symm
  · have hmem : .start ∉ events := fun hmem => by
      rw [h.isRunning_iff] at hrun
      rw [← Bool.not_eq_true, h.stopped, not_or] at hs
      exact hrun ⟨hmem, hs⟩
    rw [silence_concat, if_neg hmem, ← silence_of_notMem hmem]
    exact h.ticks hs

/-- A tick that is taken makes the silence longer, and the one that is due stops the detector. -/
theorem tick_of_isRunning (h : Tracks limit events d) (hlimit : limit ≤ maxCount)
    (hrun : d.isRunning = true) : Tracks limit (events ++ [.tick]) (d.after .tick) := by
  obtain ⟨hstart, hstop, hwas⟩ := h.isRunning_iff.mp hrun
  have hreaches := h.reachesLimit_iff hlimit hrun
  have hsilence := silence_concat_tick hstart
  have hstate : d.after .tick = { d with
      ticks := silence events + 1, stopped := d.reachesLimit,
      waiting := d.waiting || d.reachesLimit } := by
    rw [← h.countAfter_ticks hlimit hrun]
    exact if_pos hrun
  have hlt : silence events < max limit 1 := (h.ticks (stopped_of_isRunning hrun)).2
  rw [hstate]
  refine ⟨h.limit_eq, by simpa using h.started, by simpa using h.routines, ?_, fun hs => ?_, hlt⟩
  · rw [hreaches, wasDue_concat]
    simp [hstop, hwas]
  · refine ⟨hsilence.symm, ?_⟩
    by_contra hle
    have hdue : d.reachesLimit = true := hreaches.mpr ⟨hstart, hstop, Nat.le_of_not_lt hle⟩
    exact absurd (hdue.symm.trans hs) (by decide)

theorem tick (h : Tracks limit events d) (hlimit : limit ≤ maxCount) :
    Tracks limit (events ++ [.tick]) (d.after .tick) := by
  by_cases hrun : d.isRunning = true
  · exact h.tick_of_isRunning hlimit hrun
  · exact h.tick_of_not_isRunning hrun

/-- **Every event** keeps a detector in the state that the events tell. -/
theorem after (h : Tracks limit events d) (hlimit : limit ≤ maxCount) (e : Event) :
    Tracks limit (events ++ [e]) (d.after e) := by
  cases e with
  | start => exact h.start
  | stop => exact h.stop
  | tick => exact h.tick hlimit
  | write => exact h.write

/-- **The notification is sent** with the first tick that is due. -/
theorem firesNext_iff (h : Tracks limit events d) (hlimit : limit ≤ maxCount) :
    d.firesNext = true ↔ Due limit events ∧ ¬ WasDue limit events := by
  unfold firesNext
  rw [Bool.and_eq_true]
  constructor
  · rintro ⟨hrun, hreaches⟩
    exact ⟨(h.reachesLimit_iff hlimit hrun).mp hreaches, (h.isRunning_iff.mp hrun).2.2⟩
  · rintro ⟨hdue, hwas⟩
    have hrun := h.isRunning_iff.mpr ⟨hdue.started, hdue.notStopped, hwas⟩
    exact ⟨hrun, (h.reachesLimit_iff hlimit hrun).mpr hdue⟩

end Tracks

theorem tracks_new (limit : Nat) : Tracks limit [] { limit } where
  limit_eq := rfl
  started := by simp
  routines := rfl
  stopped := by simp [not_wasDue_nil]
  ticks _ := ⟨rfl, Nat.lt_of_lt_of_le Nat.one_pos (Nat.le_max_right _ _)⟩
  bound := Nat.zero_le _

end Detector

end Stepwise
