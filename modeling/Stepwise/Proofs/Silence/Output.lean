import Stepwise.Proofs.Silence.Notification
import Stepwise.Steps.Runner

/-!
# Output and silence

A step that writes again and again is not silent, and its detector should send nothing. Whether that
is so depends on two settings that are made independently of each other: how long a step may be
silent, and how long a tick is. A detector counts whole ticks, and the tick that it is at counts as
silent although something may have been written since the one before.

* `KeptAlive`: something is written before each tick that follows the start.
* `Watch.sent_of_keptAlive`: such a run sends nothing if the limit is at least 2.
* `Watch.sends_of_limit_le_one`: with a limit of 0 or 1 every tick that is taken sends, whatever was
  written.
* `Watch.quiet_iff`: **output keeps the detector quiet exactly if two ticks fit into the time that a
  step may be silent**.
-/

namespace Stepwise

namespace Detector

/-! ## Output before every tick -/

/-- Something is written between the start and the first tick after it, and between any two
ticks. -/
def KeptAlive (events : List Event) : Prop :=
  ∀ before, before ++ [.tick] <+: events → .start ∈ before →
    .write ∈ (before.dropWhile (· ≠ .start)).reverse.takeWhile (· ≠ .tick)

/-- Going back from the latest event, no tick comes before the first write if a write comes before
the first tick. -/
theorem count_tick_of_write_mem {latest : List Event} (h : .write ∈ latest.takeWhile (· ≠ .tick)) :
    (latest.takeWhile (· ≠ .write)).count .tick = 0 := by
  induction latest with
  | nil => rfl
  | cons e latest ih =>
    cases e with
    | tick => simp at h
    | write => rfl
    | start | stop =>
      have hlatest : .write ∈ latest.takeWhile (· ≠ .tick) := by simpa using h
      simpa using ih hlatest

/-- In a run that is kept alive a tick makes a silence of 1 at most. -/
theorem KeptAlive.silence_le_one {before events : List Event} (h : KeptAlive events)
    (hinit : before ++ [.tick] <+: events) : silence (before ++ [.tick]) ≤ 1 := by
  rw [silence_concat]
  show (if .start ∈ before then silence before + 1 else 0) ≤ 1
  split
  · have hzero : silence before = 0 := count_tick_of_write_mem (h before hinit ‹_›)
    omega
  · exact Nat.zero_le _

/-- **No tick of a run that is kept alive is due** if it takes two to be. -/
theorem KeptAlive.not_wasDue {limit : Nat} {events : List Event} (h : KeptAlive events)
    (hlimit : 2 ≤ limit) : ¬ WasDue limit events := by
  rintro ⟨before, hinit, hdue⟩
  have hle := h.silence_le_one hinit
  have hsilent := hdue.silent
  omega

/-- A start, a write and the first tick. -/
theorem keptAlive_written : KeptAlive [.start, .write, .tick] := by
  intro before hinit hstart
  change before ++ [.tick] <+: [.start, .write] ++ [.tick] at hinit
  rcases List.prefix_concat_iff.mp hinit with heq | hshort
  · obtain ⟨rfl, -⟩ := List.append_inj' heq rfl
    decide
  · have htick : Event.tick ∈ [Event.start, .write] := hshort.subset (by simp)
    exact absurd htick (by decide)

/-! ## The limit of two settings -/

theorem tickLimit_le_maxCount (timeout interval : Duration) :
    tickLimit timeout interval ≤ maxCount :=
  Nat.min_le_right _ _

/-- The limit is at least 2 exactly if two ticks fit into the time. -/
theorem two_le_tickLimit_iff (timeout : Nat) {interval : Nat} (hinterval : 0 < interval) :
    2 ≤ tickLimit (.ofSeconds timeout) (.ofSeconds interval) ↔ 2 * interval ≤ timeout := by
  have hmax : 2 ≤ maxCount := by decide
  have hnanos : 0 < interval * 1000000000 + 0 := by omega
  unfold tickLimit Duration.ofSeconds Duration.ofParts
  rw [Nat.le_min, and_iff_left hmax, Nat.le_div_iff_mul_le hnanos]
  show 2 * (interval * 1000000000 + 0) ≤ timeout * 1000000000 + 0 ↔ _
  omega

end Detector

namespace Watch

open Detector (KeptAlive Due WasDue)

/-! ## Quiet detectors -/

variable {limit : Nat}

/-- **Output keeps a detector quiet** if its limit is at least 2. -/
theorem sent_of_keptAlive (hlimit : limit ≤ maxCount) (htwo : 2 ≤ limit) {uses : List Use}
    (h : KeptAlive (events uses)) : (new limit).sent uses = 0 := by
  obtain ⟨hle, hone⟩ := sent_useAll hlimit uses
  have hne : (new limit).sent uses ≠ 1 := mt hone.mp (h.not_wasDue htwo)
  omega

/-- **Output does not count** for a limit of 0 or 1: each tick that is taken sends. -/
theorem sends_of_limit_le_one (hone : limit ≤ 1) (uses : List Use)
    (hrun : ((new limit).useAll uses).detector.isRunning = true) :
    ((new limit).useAll uses).sends .tick = true := by
  have hlimit : limit ≤ maxCount := hone.trans (by decide)
  obtain ⟨hstart, hstop, hwas⟩ := (tracks_useAll hlimit uses).isRunning_iff.mp hrun
  refine (sends_useAll_iff hlimit uses .tick).mpr ⟨rfl, ⟨hstart, hstop, ?_⟩, hwas⟩
  have hsilence := Detector.silence_concat_tick hstart
  omega

/-- Such a limit is reached by the first tick after a write. -/
theorem sent_written (hone : limit ≤ 1) (bytes : Bytes) :
    (new limit).sent [.newWriter, .start, .write 0 bytes, .tick] = 1 := by
  have hsends := sends_of_limit_le_one hone [.newWriter, .start, .write 0 bytes] rfl
  show 0 + (0 + (0 +
    ((((new limit).useAll [.newWriter, .start, .write 0 bytes]).sends .tick).toNat + 0))) = 1
  rw [hsends]
  rfl

/-! ## The two settings -/

/-- A silence that is watched, before anything is done. -/
def ofSilence (watch : SilenceWatch) : Watch := { detector := watch.detector }

/-- The silence of a step is watched with the limit that the two settings make. -/
theorem exists_silenceWatch {s : Settings} {seconds : Nat}
    (hseconds : s.noOutputSeconds = some seconds)
    (hpos : 0 < seconds) : ∃ watch, Runner.silenceWatch s = some watch ∧
      ofSilence watch = new
        (Detector.tickLimit (.ofSeconds seconds) (.ofSeconds s.tickSeconds)) := by
  have htimeout : s.noOutputTimeout = some (.ofSeconds seconds) := by
    simp [Settings.noOutputTimeout, Settings.limit, hseconds, hpos]
  exact ⟨_, by rw [Runner.silenceWatch, htimeout, Option.map_some], rfl⟩

/-- **Output keeps the detector quiet** exactly if two ticks fit into the time that a step may be
silent. For every time without output and every interval between ticks that settings admit:

* the detector sends nothing in any run that is kept alive, if and only if the interval is at most
  half the time;
* if it is longer, each tick that the detector takes sends the notification, whatever was
  written. -/
theorem quiet_iff (s : Settings) (hvalid : s.validate = .ok s) {seconds : Nat}
    (hseconds : s.noOutputSeconds = some seconds) (hpos : 0 < seconds) :
    ∃ watch, Runner.silenceWatch s = some watch ∧
      ((∀ uses, KeptAlive (events uses) → (ofSilence watch).sent uses = 0) ↔
        2 * s.tickSeconds ≤ seconds) ∧
      (seconds < 2 * s.tickSeconds → ∀ uses,
        ((ofSilence watch).useAll uses).detector.isRunning = true →
          ((ofSilence watch).useAll uses).sends .tick = true) := by
  have hticks : 0 < s.tickSeconds := by
    rw [Nat.pos_iff_ne_zero]
    intro hzero
    rw [Settings.validate, if_pos hzero] at hvalid
    cases hvalid
  obtain ⟨watch, hwatch, hnew⟩ := exists_silenceWatch hseconds hpos
  have htwo := Detector.two_le_tickLimit_iff seconds hticks
  have hlimit := Detector.tickLimit_le_maxCount (.ofSeconds seconds) (.ofSeconds s.tickSeconds)
  refine ⟨watch, hwatch, ⟨fun hquiet => ?_, fun hfit uses halive => ?_⟩, fun hlong uses hrun => ?_⟩
  · -- one write before the first tick already decides
    by_contra hlong
    have hzero := hquiet [.newWriter, .start, .write 0 [], .tick] Detector.keptAlive_written
    rw [hnew, sent_written (by omega)] at hzero
    cases hzero
  · rw [hnew]
    exact sent_of_keptAlive hlimit (htwo.mpr hfit) halive
  · have hone : Detector.tickLimit (.ofSeconds seconds) (.ofSeconds s.tickSeconds) ≤ 1 := by omega
    rw [hnew] at hrun ⊢
    exact sends_of_limit_le_one hone uses hrun

/-- With a minute for silence and the default of half a minute for a tick, output keeps a step
alive. -/
theorem quiet_iff_minute :
    ({ noOutputSeconds := some 60 } : Settings).validate = .ok { noOutputSeconds := some 60 } ∧
    ∃ watch, Runner.silenceWatch { noOutputSeconds := some 60 } = some watch ∧
      ∀ uses, KeptAlive (events uses) → (ofSilence watch).sent uses = 0 := by
  obtain ⟨watch, hwatch, hquiet, -⟩ := quiet_iff { noOutputSeconds := some 60 } rfl rfl (by decide)
  exact ⟨rfl, watch, hwatch, hquiet.mpr (by decide)⟩

/-- With half a minute for both, the first tick ends a step that wrote something just before. -/
theorem fires_despite_output :
    ({ noOutputSeconds := some 30 } : Settings).validate = .ok { noOutputSeconds := some 30 } ∧
    KeptAlive (events [.newWriter, .start, .write 0 [104], .tick]) ∧
    ∃ watch, Runner.silenceWatch { noOutputSeconds := some 30 } = some watch ∧
      (ofSilence watch).sent [.newWriter, .start, .write 0 [104], .tick] = 1 := by
  obtain ⟨watch, hwatch, hnew⟩ :=
    exists_silenceWatch (s := { noOutputSeconds := some 30 }) rfl (by decide)
  refine ⟨rfl, Detector.keptAlive_written, watch, hwatch, ?_⟩
  rw [hnew]
  exact sent_written (by decide) [104]

end Watch

end Stepwise
