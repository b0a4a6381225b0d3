import Mathlib.Logic.Relation
import Stepwise.Secrets.Redaction

/-!
# What has to be hidden in a byte string

The rule that redaction is measured against, said without a scan. Positions count from 0, and a
`Span` is a stretch of them.

* `Occurs`: a secret stands at a span of the input, however it overlaps others.
* `Covered`: a position lies inside some occurrence.
* `Linked`: two occurrences are joined by a chain in which neighbours share a byte. Occurrences that
  merely touch end to end are not neighbours.
* `IsSpan`: a span holds exactly the positions of one class of linked occurrences.
* `Cut`: no occurrence goes on over a position.

Results:
* `isSpan_unique`: spans that share a position are the same.
* `IsSpan.exists_start`, `IsSpan.exists_stop`: a span begins and ends with occurrences.
* `isSpan_of_cuts`: **a stretch between two cuts is a span** once each of its positions lies in an
  occurrence linked to one and the same.
-/

namespace Stepwise.Redaction

/-- The positions from `start` on and before `stop`. -/
structure Span where
  start : Nat
  stop : Nat
  deriving DecidableEq

namespace Span

/-- A position belongs to a span. -/
def Holds (s : Span) (i : Nat) : Prop := s.start ≤ i ∧ i < s.stop

/-- The bytes of a string at the positions of a span. -/
def bytes (s : Span) (input : Bytes) : Bytes := (input.drop s.start).take (s.stop - s.start)

/-- Spans that hold the same positions are the same, unless they hold none. -/
theorem eq_of_holds_iff {s t : Span} (hs : s.start < s.stop) (ht : t.start < t.stop)
    (h : ∀ i, s.Holds i ↔ t.Holds i) : s = t := by
  unfold Holds at h
  have hstart := h s.start
  have hstart' := h t.start
  have hstop := h (s.stop - 1)
  have hstop' := h (t.stop - 1)
  obtain ⟨a, b⟩ := s
  obtain ⟨c, d⟩ := t
  simp only [Span.mk.injEq] at hs ht hstart hstart' hstop hstop' ⊢
  omega

end Span

variable (secrets : List Bytes) (input : Bytes)

/-- A secret that is not empty stands at the positions of `o`. -/
def Occurs (o : Span) : Prop :=
  ∃ s ∈ secrets, s ≠ [] ∧ s <+: input.drop o.start ∧ o.stop = o.start + s.length

/-- A position lies inside an occurrence of a secret. -/
def Covered (i : Nat) : Prop := ∃ o, Occurs secrets input o ∧ o.Holds i

/-- Two occurrences share a byte. -/
def Meets (o p : Span) : Prop :=
  Occurs secrets input o ∧ Occurs secrets input p ∧ ∃ i, o.Holds i ∧ p.Holds i

/-- A chain of occurrences leads from `o` to `p`, each sharing a byte with the next. -/
def Linked : Span → Span → Prop := Relation.ReflTransGen (Meets secrets input)

/-- The positions of `s` are those of the occurrences that are linked to one of them. -/
def IsSpan (s : Span) : Prop :=
  ∃ o, Occurs secrets input o ∧ ∀ i, s.Holds i ↔ ∃ p, Linked secrets input o p ∧ p.Holds i

/-- No occurrence goes on over position `i`. -/
def Cut (i : Nat) : Prop := ∀ o, Occurs secrets input o → o.stop ≤ i ∨ i ≤ o.start

variable {secrets input}

/-! ## Occurrences -/

theorem Occurs.start_lt {o : Span} (h : Occurs secrets input o) : o.start < o.stop := by
  obtain ⟨s, -, hne, -, hstop⟩ := h
  have := List.length_pos_iff.mpr hne
  omega

theorem Occurs.stop_le {o : Span} (h : Occurs secrets input o) : o.stop ≤ input.length := by
  obtain ⟨s, -, hne, hp, hstop⟩ := h
  have hle := hp.length_le
  have := List.length_pos_iff.mpr hne
  rw [List.length_drop] at hle
  omega

theorem Occurs.holds_start {o : Span} (h : Occurs secrets input o) : o.Holds o.start :=
  ⟨Nat.le_refl _, h.start_lt⟩

theorem Occurs.covered {o : Span} (h : Occurs secrets input o) {i : Nat} (hi : o.Holds i) :
    Covered secrets input i :=
  ⟨o, h, hi⟩

theorem Covered.lt_length {i : Nat} (h : Covered secrets input i) : i < input.length := by
  obtain ⟨o, ho, -, hi⟩ := h
  exact Nat.lt_of_lt_of_le hi ho.stop_le

/-! ## Classes of occurrences -/

theorem Linked.occurs {o p : Span} (ho : Occurs secrets input o) (h : Linked secrets input o p) :
    Occurs secrets input p := by
  cases h with
  | refl => exact ho
  | tail _ hm => exact hm.2.1

theorem Linked.symm {o p : Span} (h : Linked secrets input o p) : Linked secrets input p o := by
  induction h with
  | refl => exact Relation.ReflTransGen.refl
  | tail _ hm ih =>
    obtain ⟨hb, hc, i, hi, hi'⟩ := hm
    exact Relation.ReflTransGen.head ⟨hc, hb, i, hi', hi⟩ ih

theorem Linked.trans {o p q : Span} (h : Linked secrets input o p) (h' : Linked secrets input p q) :
    Linked secrets input o q :=
  Relation.ReflTransGen.trans h h'

/-- Occurrences that share a position are linked. -/
theorem linked_of_holds {o p : Span} (ho : Occurs secrets input o) (hp : Occurs secrets input p)
    {i : Nat} (hi : o.Holds i) (hi' : p.Holds i) : Linked secrets input o p :=
  Relation.ReflTransGen.single ⟨ho, hp, i, hi, hi'⟩

theorem IsSpan.start_lt {s : Span} (h : IsSpan secrets input s) : s.start < s.stop := by
  obtain ⟨o, ho, hs⟩ := h
  have hin := (hs o.start).mpr ⟨o, Relation.ReflTransGen.refl, ho.holds_start⟩
  exact Nat.lt_of_le_of_lt hin.1 hin.2

theorem IsSpan.holds_start {s : Span} (h : IsSpan secrets input s) : s.Holds s.start :=
  ⟨Nat.le_refl _, h.start_lt⟩

/-- What a span holds is covered. -/
theorem IsSpan.covered {s : Span} (h : IsSpan secrets input s) {i : Nat} (hi : s.Holds i) :
    Covered secrets input i := by
  obtain ⟨o, ho, hs⟩ := h
  obtain ⟨p, hp, hpi⟩ := (hs i).mp hi
  exact (hp.occurs ho).covered hpi

theorem IsSpan.stop_le {s : Span} (h : IsSpan secrets input s) : s.stop ≤ input.length := by
  have hlt := h.start_lt
  have := (h.covered (i := s.stop - 1) ⟨by omega, by omega⟩).lt_length
  omega

/-- A span begins where some occurrence does. -/
theorem IsSpan.exists_start {s : Span} (h : IsSpan secrets input s) :
    ∃ p, Occurs secrets input p ∧ p.start = s.start := by
  obtain ⟨o, ho, hs⟩ := h
  obtain ⟨p, hp, hpi⟩ := (hs s.start).mp (IsSpan.holds_start ⟨o, ho, hs⟩)
  have hin := (hs p.start).mpr ⟨p, hp, (hp.occurs ho).holds_start⟩
  exact ⟨p, hp.occurs ho, Nat.le_antisymm hpi.1 hin.1⟩

/-- A span ends where some occurrence does. -/
theorem IsSpan.exists_stop {s : Span} (h : IsSpan secrets input s) :
    ∃ p, Occurs secrets input p ∧ p.stop = s.stop := by
  have hlt := h.start_lt
  obtain ⟨o, ho, hs⟩ := h
  obtain ⟨p, hp, hpi⟩ := (hs (s.stop - 1)).mp ⟨by omega, by omega⟩
  have hplt := (hp.occurs ho).start_lt
  have hin := (hs (p.stop - 1)).mpr ⟨p, hp, by omega, by omega⟩
  exact ⟨p, hp.occurs ho, Nat.le_antisymm (by have := hin.2; omega) (by have := hpi.2; omega)⟩

/-- **Spans that share a position are the same**: they come from one class. -/
theorem isSpan_unique {s t : Span} (hs : IsSpan secrets input s) (ht : IsSpan secrets input t)
    {i : Nat} (hi : s.Holds i) (hi' : t.Holds i) : s = t := by
  refine Span.eq_of_holds_iff hs.start_lt ht.start_lt fun j => ?_
  obtain ⟨o, ho, hso⟩ := hs
  obtain ⟨q, hq, htq⟩ := ht
  obtain ⟨o', ho', hoi⟩ := (hso i).mp hi
  obtain ⟨q', hq', hqi⟩ := (htq i).mp hi'
  have hoq : Linked secrets input o q :=
    (ho'.trans (linked_of_holds (ho'.occurs ho) (hq'.occurs hq) hoi hqi)).trans hq'.symm
  rw [hso, htq]
  constructor
  · rintro ⟨p, hp, hpj⟩
    exact ⟨p, hoq.symm.trans hp, hpj⟩
  · rintro ⟨p, hp, hpj⟩
    exact ⟨p, hoq.trans hp, hpj⟩

/-! ## Cuts -/

theorem cut_zero : Cut secrets input 0 := fun _ _ => Or.inr (Nat.zero_le _)

/-- A chain does not leave the stretch between two cuts. -/
theorem Linked.between {o p : Span} (h : Linked secrets input o p) {a b : Nat}
    (ha : Cut secrets input a) (hb : Cut secrets input b) (hstart : a ≤ o.start)
    (hstop : o.stop ≤ b) : a ≤ p.start ∧ p.stop ≤ b := by
  induction h with
  | refl => exact ⟨hstart, hstop⟩
  | tail _ hm ih =>
    obtain ⟨-, hq, i, ⟨h1, h2⟩, h3, h4⟩ := hm
    have hqa := ha _ hq
    have hqb := hb _ hq
    omega

/-- **A stretch between two cuts is a span** if each of its positions lies in an occurrence linked
to one in the stretch. -/
theorem isSpan_of_cuts {o : Span} (ho : Occurs secrets input o) {a b : Nat}
    (ha : Cut secrets input a) (hb : Cut secrets input b) (hstart : a ≤ o.start)
    (hstop : o.stop ≤ b) (hall : ∀ i, a ≤ i → i < b → ∃ p, Linked secrets input o p ∧ p.Holds i) :
    IsSpan secrets input ⟨a, b⟩ := by
  refine ⟨o, ho, fun i => ⟨fun ⟨hi, hi'⟩ => hall i hi hi', ?_⟩⟩
  rintro ⟨p, hp, hpi, hpi'⟩
  obtain ⟨hpa, hpb⟩ := hp.between ha hb hstart hstop
  exact ⟨Nat.le_trans hpa hpi, Nat.lt_of_lt_of_le hpi' hpb⟩

/-- A cut at which no occurrence starts is followed by another, and the byte between is covered by
nothing. -/
theorem Cut.succ {i : Nat} (hi : Cut secrets input i)
    (hnone : ∀ o, Occurs secrets input o → o.start ≠ i) :
    ¬ Covered secrets input i ∧ Cut secrets input (i + 1) := by
  constructor
  · rintro ⟨o, ho, h1, h2⟩
    have := hi o ho
    have := hnone o ho
    omega
  · intro o ho
    have := hi o ho
    have := hnone o ho
    omega

end Stepwise.Redaction
