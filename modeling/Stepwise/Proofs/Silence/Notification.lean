import Mathlib.Data.List.Induction
import Stepwise.Proofs.Silence.Count
import Stepwise.Silence.Watch

/-!
# The one notification

A detector that is shared: any number of writers, the ticker, who starts and who stops it use it in
any order, each use as one step. Whatever the order, what the detector does is told by the events in
it.

* `Detector.Settled.waiting_after`: what an event sends begins to wait, and nothing waited before.
* `Watch.events`: what uses are to the detector. Making a writer, flushing one, looking at the
  detector and receiving from it are nothing to it.
* `Watch.tracks_useAll`: the run lemma, that uses leave the detector in the state that their events
  tell.
* `Watch.sent_useAll`: a run sends one notification if a tick in it was due, and none otherwise.
* `Watch.sent_of_stopped`, `Watch.refuses_of_stopped`: what stays so once the detector is stopped.
* `Watch.received_add_waiting`: what is sent is received or waits to be.
* `Watch.notifies_once`: **one notification at most**, at the first tick that is due.
-/

namespace Stepwise

namespace Detector

/-! ## A detector and its notification -/

variable {d : Detector}

/-- A notification waits only in a detector that is stopped. -/
def Settled (d : Detector) : Prop := d.waiting = true → d.stopped = true

/-- A detector that runs has none waiting, so the tick that fires does not find one. -/
theorem Settled.waiting_of_isRunning (h : d.Settled) (hrun : d.isRunning = true) :
    d.waiting = false := by
  rw [← Bool.not_eq_true]
  intro hwaiting
  exact Bool.false_ne_true ((stopped_of_isRunning hrun).symm.trans (h hwaiting))

theorem Settled.after (h : d.Settled) (e : Event) : (d.after e).Settled := by
  cases e with
  | start =>
    obtain ⟨hstopped, hwaiting⟩ := after_start_flags d
    rw [Settled, hstopped, hwaiting]
    exact h
  | stop => exact fun _ => rfl
  | write => exact h
  | tick =>
    by_cases hrun : d.isRunning = true
    · simp [Settled, Detector.after, hrun, h.waiting_of_isRunning hrun]
    · rwa [show d.after .tick = d from if_neg hrun]

/-- **What an event sends begins to wait.** -/
theorem Settled.waiting_after (h : d.Settled) (e : Event) :
    (d.after e).waiting.toNat = d.waiting.toNat + (d.step e).2.toNat := by
  cases e with
  | start => rw [(after_start_flags d).2]; rfl
  | stop | write => rfl
  | tick =>
    by_cases hrun : d.isRunning = true
    · simp [Detector.after, step, firesNext, hrun, h.waiting_of_isRunning hrun]
    · simp [Detector.after, step, firesNext, hrun]

end Detector

namespace Watch

open Detector (Due WasDue Tracks)

/-! ## Runs -/

/-- The watch of a new detector, which has no writer. -/
def new (limit : Nat) : Watch := { detector := { limit } }

/-- The state after uses, one after the other. -/
def useAll (w : Watch) (uses : List Use) : Watch := uses.foldl (fun w u => (w.use u).1) w

/-- The event that a use is to the detector, if it is one. -/
def Use.event? : Use → Option Detector.Event
  | .start => some .start
  | .stop | .giveUp => some .stop
  | .tick => some .tick
  | .write _ _ => some .write
  | .receive | .newWriter | .flush _ | .display => none

/-- The events in a list of uses. -/
def events (uses : List Use) : List Detector.Event := uses.filterMap Use.event?

/-- Whether a use sends the notification. -/
def sends (w : Watch) (u : Use) : Bool := u.event?.any fun e => (w.detector.step e).2

/-- How many notifications are sent by a list of uses. -/
def sent (w : Watch) : List Use → Nat
  | [] => 0
  | u :: uses => (w.sends u).toNat + sent (w.use u).1 uses

/-- Whether a use receives a notification. -/
def receives (w : Watch) : Use → Bool
  | .receive => w.detector.receive.2
  | _ => false

/-- How many notifications are received by a list of uses. -/
def received (w : Watch) : List Use → Nat
  | [] => 0
  | u :: uses => (w.receives u).toNat + received (w.use u).1 uses

variable {limit : Nat} {uses : List Use} {w : Watch} {u : Use}

theorem useAll_append (w : Watch) (uses later : List Use) :
    w.useAll (uses ++ later) = (w.useAll uses).useAll later :=
  List.foldl_append

theorem events_concat_of_some {e : Detector.Event} (h : u.event? = some e) :
    events (uses ++ [u]) = events uses ++ [e] := by
  simp [events, h]

theorem events_concat_of_none (h : u.event? = none) : events (uses ++ [u]) = events uses := by
  simp [events, h]

theorem sent_append (w : Watch) (uses later : List Use) :
    w.sent (uses ++ later) = w.sent uses + (w.useAll uses).sent later := by
  induction uses generalizing w with
  | nil => simp [sent, useAll]
  | cons u uses ih =>
    show (w.sends u).toNat + sent (w.use u).1 (uses ++ later) = _
    rw [ih, ← Nat.add_assoc]
    rfl

/-! ## What a use does to the detector -/

theorem detector_use {e : Detector.Event} (h : u.event? = some e) :
    (w.use u).1.detector = w.detector.after e := by
  cases u <;> cases h <;> rfl

/-- A use that is no event takes at most a waiting notification. -/
theorem detector_use_of_none (h : u.event? = none) :
    (w.use u).1.detector = w.detector ∨ (w.use u).1.detector = w.detector.receive.1 := by
  cases u with
  | receive => exact Or.inr rfl
  | newWriter | flush | display => exact Or.inl rfl
  | start | stop | tick | write | giveUp => cases h

/-- **Uses leave the detector in the state that their events tell.** -/
theorem tracks_useAll (hlimit : limit ≤ maxCount) (uses : List Use) :
    Tracks limit (events uses) ((new limit).useAll uses).detector := by
  induction uses using List.reverseRecOn with
  | nil => exact Detector.tracks_new limit
  | append_singleton uses u ih =>
    rw [useAll_append]
    show Tracks limit _ (((new limit).useAll uses).use u).1.detector
    cases hu : u.event? with
    | some e =>
      rw [events_concat_of_some hu, detector_use hu]
      exact ih.after hlimit e
    | none =>
      rw [events_concat_of_none hu]
      rcases detector_use_of_none hu with hsame | hreceived
      · rwa [hsame]
      · rw [hreceived]
        exact { ih with }

/-! ## What is sent -/

/-- Only a tick sends, and only one that completes the limit of a running detector. -/
theorem sends_iff : w.sends u = true ↔ u = .tick ∧ w.detector.firesNext = true := by
  cases u <;> simp [sends, Use.event?, Detector.step]

/-- **The notification is sent** at the first tick that is due. -/
theorem sends_useAll_iff (hlimit : limit ≤ maxCount) (uses : List Use) (u : Use) :
    ((new limit).useAll uses).sends u = true ↔
      u = .tick ∧ Due limit (events uses) ∧ ¬ WasDue limit (events uses) := by
  rw [sends_iff, (tracks_useAll hlimit uses).firesNext_iff hlimit]

/-- A use adds a tick that was due exactly if it sends. -/
theorem wasDue_concat_iff (hlimit : limit ≤ maxCount) (uses : List Use) (u : Use) :
    WasDue limit (events (uses ++ [u])) ↔
      WasDue limit (events uses) ∨ ((new limit).useAll uses).sends u = true := by
  cases hu : u.event? with
  | none =>
    have hnot : ((new limit).useAll uses).sends u = false := by simp [sends, hu]
    rw [events_concat_of_none hu, hnot]
    simp
  | some e =>
    have htick : e = .tick ↔ u = .tick := by
      cases u <;> cases hu <;> simp
    rw [events_concat_of_some hu, Detector.wasDue_concat, sends_useAll_iff hlimit, htick]
    tauto

/-- **A run sends one notification at most**, and sends it if a tick in the run was due. -/
theorem sent_useAll (hlimit : limit ≤ maxCount) (uses : List Use) :
    (new limit).sent uses ≤ 1 ∧ ((new limit).sent uses = 1 ↔ WasDue limit (events uses)) := by
  induction uses using List.reverseRecOn with
  | nil => exact ⟨Nat.zero_le _, iff_of_false Nat.zero_ne_one Detector.not_wasDue_nil⟩
  | append_singleton uses u ih =>
    obtain ⟨hle, hone⟩ := ih
    have hsent : (new limit).sent (uses ++ [u]) =
        (new limit).sent uses + (((new limit).useAll uses).sends u).toNat := sent_append _ _ _
    have hfirst (h : ((new limit).useAll uses).sends u = true) : ¬ WasDue limit (events uses) :=
      ((sends_useAll_iff hlimit uses u).mp h).2.2
    rw [hsent, wasDue_concat_iff hlimit, ← hone]
    rw [← hone] at hfirst
    cases hsends : ((new limit).useAll uses).sends u with
    | false => simpa using hle
    | true =>
      have hzero : (new limit).sent uses = 0 := by
        have := hfirst hsends
        omega
      simp [hzero]

/-! ## A stopped detector -/

theorem stopped_use (h : w.detector.stopped = true) (u : Use) :
    (w.use u).1.detector.stopped = true := by
  cases hu : u.event? with
  | some e =>
    rw [detector_use hu]
    exact Detector.stopped_after h e
  | none => rcases detector_use_of_none hu with heq | heq <;> rw [heq] <;> exact h

/-- A stopped detector stays stopped through any uses. -/
theorem stopped_useAll (h : w.detector.stopped = true) (uses : List Use) :
    (w.useAll uses).detector.stopped = true := by
  induction uses generalizing w with
  | nil => exact h
  | cons u uses ih => exact ih (stopped_use h u)

/-- **Nothing is sent any more** once the detector is stopped. -/
theorem sent_of_stopped (h : w.detector.stopped = true) (uses : List Use) : w.sent uses = 0 := by
  induction uses generalizing w with
  | nil => rfl
  | cons u uses ih =>
    have hnot : w.sends u = false := by
      rw [← Bool.not_eq_true, sends_iff, Detector.firesNext, Detector.not_isRunning_of_stopped h]
      simp
    show (w.sends u).toNat + sent (w.use u).1 uses = 0
    rw [hnot, ih (stopped_use h u)]
    rfl

/-- **No tick is taken any more** once the detector is stopped. -/
theorem refuses_of_stopped (h : w.detector.stopped = true) : (w.use .tick).2 = .yes false :=
  congrArg Answer.yes (Detector.not_isRunning_of_stopped h)

/-! ## What is received -/

/-- **The notification is not lost**: by each use one that is sent begins to wait, and one that is
received no longer does. -/
theorem settled_use (h : w.detector.Settled) (u : Use) :
    (w.use u).1.detector.Settled ∧ (w.receives u).toNat + (w.use u).1.detector.waiting.toNat =
      w.detector.waiting.toNat + (w.sends u).toNat := by
  cases u with
  | start => exact ⟨h.after .start, (Nat.zero_add _).trans (h.waiting_after .start)⟩
  | stop | giveUp => exact ⟨h.after .stop, (Nat.zero_add _).trans (h.waiting_after .stop)⟩
  | tick => exact ⟨h.after .tick, (Nat.zero_add _).trans (h.waiting_after .tick)⟩
  | write => exact ⟨h.after .write, (Nat.zero_add _).trans (h.waiting_after .write)⟩
  | receive => exact ⟨fun hwaiting => absurd hwaiting Bool.false_ne_true, rfl⟩
  | newWriter | flush | display => exact ⟨h, Nat.zero_add _⟩

/-- What is sent is received or still waits. -/
theorem received_add_waiting (h : w.detector.Settled) (uses : List Use) :
    w.received uses + (w.useAll uses).detector.waiting.toNat =
      w.detector.waiting.toNat + w.sent uses := by
  induction uses generalizing w with
  | nil => simp [received, sent, useAll]
  | cons u uses ih =>
    obtain ⟨hsettled, hone⟩ := settled_use h u
    have hrest := ih hsettled
    show (w.receives u).toNat + received (w.use u).1 uses +
        ((w.use u).1.useAll uses).detector.waiting.toNat =
      w.detector.waiting.toNat + ((w.sends u).toNat + sent (w.use u).1 uses)
    omega

/-! ## The whole -/

/-- **A detector notifies once.** Whatever the limit of 64 bits, and in whatever order writers, the
ticker and those who start and stop the detector use it:

* the next use sends the notification exactly if it is a tick that is due and none was due before;
* at most one notification is sent, and one is if a tick was due; it is received or waits;
* a detector takes each tick once it is started, until it is stopped or has fired; from then on it
  refuses every tick and sends nothing, whatever comes later;
* one routine at most counts the ticks, and it counts to the limit (or to 1) at most, so no count
  that it makes begins again at 0. -/
theorem notifies_once (limit : Nat) (hlimit : limit ≤ maxCount) (uses : List Use) :
    (∀ u, ((new limit).useAll uses).sends u = true ↔
      u = .tick ∧ Due limit (events uses) ∧ ¬ WasDue limit (events uses)) ∧
    ((new limit).sent uses ≤ 1 ∧ ((new limit).sent uses = 1 ↔ WasDue limit (events uses)) ∧
      (new limit).received uses + ((new limit).useAll uses).detector.waiting.toNat =
        (new limit).sent uses) ∧
    ((((new limit).useAll uses).use .tick).2 = .yes true ↔
      .start ∈ events uses ∧ .stop ∉ events uses ∧ ¬ WasDue limit (events uses)) ∧
    (.stop ∈ events uses ∨ WasDue limit (events uses) → ∀ later,
      (((new limit).useAll (uses ++ later)).use .tick).2 = .yes false ∧
      ((new limit).useAll uses).sent later = 0) ∧
    (((new limit).useAll uses).detector.routines = if .start ∈ events uses then 1 else 0) ∧
    ((new limit).useAll uses).detector.ticks ≤ max limit 1 ∧
    (((new limit).useAll uses).detector.isRunning = true →
      countAfter ((new limit).useAll uses).detector.ticks =
        ((new limit).useAll uses).detector.ticks + 1) := by
  have htracks := tracks_useAll hlimit uses
  obtain ⟨hle, hone⟩ := sent_useAll hlimit uses
  have hsettled : (new limit).detector.Settled := fun hwaiting => absurd hwaiting Bool.false_ne_true
  refine ⟨sends_useAll_iff hlimit uses, ⟨hle, hone, ?_⟩, ?_, fun hend later => ?_,
    htracks.routines, htracks.bound, fun hrun => ?_⟩
  · simpa [new] using received_add_waiting hsettled uses
  · rw [← htracks.isRunning_iff]
    exact ⟨fun h => Answer.yes.inj h, congrArg Answer.yes⟩
  · have hstopped := htracks.stopped.mpr hend
    rw [useAll_append]
    exact ⟨refuses_of_stopped (stopped_useAll hstopped later), sent_of_stopped hstopped later⟩
  · rw [htracks.countAfter_ticks hlimit hrun,
      (htracks.ticks (Detector.stopped_of_isRunning hrun)).1]

/-- Two writers, a write through each, a second start: the third tick is the second in silence. It
sends the notification, and neither one more start nor a tick after it does anything. -/
theorem notifies_once_shared :
    2 ≤ maxCount ∧
    (new 2).sent [.newWriter, .newWriter, .write 0 [104], .start, .tick, .write 1 [105], .tick,
      .start, .tick] = 1 ∧
    (((new 2).useAll ([.newWriter, .newWriter, .write 0 [104], .start, .tick, .write 1 [105], .tick,
      .start, .tick] ++ [.receive, .start])).use .tick).2 = .yes false := by
  have hwas :
    WasDue 2 (events [.newWriter, .newWriter, .write 0 [104], .start, .tick, .write 1 [105],
      .tick, .start, .tick]) :=
    ⟨[.write, .start, .tick, .write, .tick, .start], by decide, by decide, by decide, by decide⟩
  obtain ⟨-, ⟨-, hsent, -⟩, -, hend, -⟩ := notifies_once 2 (by decide) [.newWriter, .newWriter,
    .write 0 [104], .start, .tick, .write 1 [105], .tick, .start, .tick]
  exact ⟨by decide, hsent.mpr hwas, (hend (Or.inr hwas) [.receive, .start]).1⟩

end Watch

end Stepwise
