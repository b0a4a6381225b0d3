import Stepwise.Proofs.Secrets.Front
import Stepwise.Proofs.Secrets.Spans
import Stepwise.Secrets.Set

/-!
# What redaction hides

The output of redaction is a row of pieces, each the byte at a position that no secret covers, or
the marks that stand for a whole span. `Tiles` says that pieces follow one another without a gap,
and that what is kept and what is hidden is right.

* `growSpan_spec`: what a growing span takes is linked to the match that it grew from, and no
  occurrence that starts in the span goes on after it.
* `pieces`: the pieces that the last scan of a stream takes.
* `scan_tiles`: from a cut on, that scan gives the output of its pieces, and these are right.
* `redact_hides_exactly`: **redaction keeps exactly the bytes that no secret covers, in order, and
  replaces exactly the spans.**
-/

namespace Stepwise.Redaction

/-- A piece of the output. -/
inductive Piece where
  /-- The byte at a position. -/
  | kept (position : Nat)
  /-- The marks for a span. -/
  | hidden (span : Span)
  deriving DecidableEq

namespace Piece

/-- The positions of the input that a piece stands for. -/
def span : Piece → Span
  | .kept i => ⟨i, i + 1⟩
  | .hidden s => s

/-- What a piece looks like. A span gives one mark, and one more on a new line for each newline in
it other than its last byte. -/
def shown (input : Bytes) : Piece → Bytes
  | .kept i => input[i]?.toList
  | .hidden s =>
    marker ++ ((s.bytes input).dropLast.filter (· = newline)).flatMap fun b => b :: marker

end Piece

variable (secrets : List Bytes) (input : Bytes)

/-- The pieces stand for all positions from `i` on, in order: what is kept is covered by no secret,
and what is hidden is a span. -/
inductive Tiles : Nat → List Piece → Prop where
  | done : Tiles input.length []
  | keep {i : Nat} {ps : List Piece} (hlt : i < input.length) (hnot : ¬ Covered secrets input i)
      (hps : Tiles (i + 1) ps) : Tiles i (.kept i :: ps)
  | hide {s : Span} {ps : List Piece} (hs : IsSpan secrets input s) (hps : Tiles s.stop ps) :
      Tiles s.start (.hidden s :: ps)

variable {secrets input}

/-- The pieces that the last scan of a stream takes, the front of the buffer standing at position
`i`. -/
def pieces (secrets : List Bytes) (i : Nat) : Bytes → List Piece
  | [] => []
  | b :: rest => match move secrets true (b :: rest) with
    | .wait => []
    | .forward => .kept i :: pieces secrets (i + 1) rest
    | .hide extra =>
      .hidden ⟨i, i + (extra + 1)⟩ :: pieces secrets (i + (extra + 1)) (rest.drop extra)
termination_by buffer => buffer.length
decreasing_by
  · simp
  · simp only [List.length_drop, List.length_cons]; omega

theorem pieces_nil (i : Nat) : pieces secrets i [] = [] := by rw [pieces]

theorem pieces_forward {i : Nat} {b : UInt8} {rest : Bytes}
    (h : move secrets true (b :: rest) = .forward) :
    pieces secrets i (b :: rest) = .kept i :: pieces secrets (i + 1) rest := by
  rw [pieces, h]

theorem pieces_hide {i extra : Nat} {b : UInt8} {rest : Bytes}
    (h : move secrets true (b :: rest) = .hide extra) :
    pieces secrets i (b :: rest) =
      .hidden ⟨i, i + (extra + 1)⟩ :: pieces secrets (i + (extra + 1)) (rest.drop extra) := by
  rw [pieces, h]

/-! ## A span as it grows -/

theorem drop_succ_of_drop_eq {i : Nat} {b : UInt8} {rest : Bytes} (h : input.drop i = b :: rest) :
    rest = input.drop (i + 1) := by
  rw [← List.drop_drop, h]
  rfl

theorem exists_drop_cons {i : Nat} (h : i < input.length) :
    ∃ b, input[i]? = some b ∧ input.drop i = b :: input.drop (i + 1) :=
  ⟨input[i], List.getElem?_eq_getElem h, List.drop_eq_getElem_cons h⟩

/-- A match at the front of the input's rest is an occurrence. -/
theorem occurs_of_longestMatch {i : Nat} (h : 0 < longestMatch secrets (input.drop i)) :
    Occurs secrets input ⟨i, i + longestMatch secrets (input.drop i)⟩ := by
  obtain ⟨s, hs, hp, hlen⟩ := exists_longestMatch h
  refine ⟨s, hs, ?_, hp, by rw [hlen]⟩
  rintro rfl
  simp only [List.length_nil] at hlen
  omega

/-- No occurrence goes on after the longest match at its start. -/
theorem Occurs.stop_le_longestMatch {o : Span} (h : Occurs secrets input o) :
    o.stop ≤ o.start + longestMatch secrets (input.drop o.start) := by
  obtain ⟨s, hs, -, hp, hstop⟩ := h
  have := length_le_longestMatch hs hp
  omega

/-- Once the match at `j` is taken in, some occurrence reaches as far as a growing span is known
to. -/
theorem exists_linked_reach {o p : Span} (ho : Occurs secrets input o) {b : UInt8} {rest : Bytes}
    {known j : Nat} (hrest : input.drop j = b :: rest) (hp : Linked secrets input o p)
    (hstart : p.start < j) (hstop : p.stop = j + (known + 1)) :
    ∃ q, Linked secrets input o q ∧ q.start < j + 1 ∧
      q.stop = j + 1 + (max (known + 1) (longestMatch secrets (b :: rest)) - 1) := by
  by_cases hlong : longestMatch secrets (b :: rest) ≤ known + 1
  · exact ⟨p, hp, by omega, by omega⟩
  · have hq : Occurs secrets input ⟨j, j + longestMatch secrets (b :: rest)⟩ := by
      rw [← hrest] at hlong ⊢
      exact occurs_of_longestMatch (by omega)
    -- both hold position `j`
    refine ⟨_, hp.trans (linked_of_holds (hp.occurs ho) hq (i := j) ?_ ?_), ?_, ?_⟩
    · exact ⟨by omega, by omega⟩
    · exact ⟨Nat.le_refl _, by simp only; omega⟩
    · simp
    · simp only
      omega

/-- **A growing span.** Let an occurrence that is linked to `o` start before position `j` and end
`known` bytes after it. Every byte that the span takes from `j` on lies in an occurrence linked to
`o`, and no occurrence that starts there goes on after the span. -/
theorem growSpan_spec {o : Span} (ho : Occurs secrets input o) {rest : Bytes} {known n j : Nat}
    (hrest : input.drop j = rest)
    (hlast : ∃ p, Linked secrets input o p ∧ p.start < j ∧ p.stop = j + known)
    (h : growSpan secrets true rest known = some n) :
    (∀ i, j ≤ i → i < j + n → ∃ p, Linked secrets input o p ∧ p.Holds i) ∧
      ∀ p, Occurs secrets input p → j ≤ p.start → p.start < j + n → p.stop ≤ j + n := by
  obtain ⟨p, hp, hpstart, hpstop⟩ := hlast
  match rest, known with
  | _, 0 =>
    rw [growSpan, Option.some.injEq] at h
    subst h
    exact ⟨fun i h1 h2 => by omega, fun q _ h1 h2 => by omega⟩
  | [], known + 1 =>
    have hle := (hp.occurs ho).stop_le
    have hlen := congrArg List.length hrest
    rw [List.length_drop, List.length_nil] at hlen
    omega
  | b :: rest, known + 1 =>
    rw [growSpan, Bool.not_true, Bool.false_and, if_neg Bool.false_ne_true] at h
    obtain ⟨m, hm, rfl⟩ := Option.map_eq_some_iff.mp h
    have hrest' := drop_succ_of_drop_eq hrest
    have hnext := exists_linked_reach ho hrest hp hpstart hpstop
    have hbound : max (known + 1) (longestMatch secrets (b :: rest)) - 1 ≤ rest.length := by
      obtain ⟨q, hq, -, hqstop⟩ := hnext
      have hle := (hq.occurs ho).stop_le
      have hlen := congrArg List.length hrest'
      rw [List.length_drop] at hlen
      omega
    have hle := (growSpan_bounds hbound hm).1
    obtain ⟨hheld, hend⟩ := growSpan_spec ho hrest'.symm hnext hm
    constructor
    · intro i h1 h2
      by_cases hi : i = j
      · exact ⟨p, hp, by omega, by omega⟩
      · exact hheld i (by omega) (by omega)
    · intro q hq h1 h2
      by_cases hqj : q.start = j
      · have hstop := hq.stop_le_longestMatch
        rw [hqj, hrest] at hstop
        omega
      · have := hend q hq (by omega) (by omega)
        omega

/-! ## Moves at a cut -/

/-- **A byte is forwarded** only where nothing is covered, and the next position is a cut again. -/
theorem forward_spec {i : Nat} (hcut : Cut secrets input i)
    (h : move secrets true (input.drop i) = .forward) :
    ¬ Covered secrets input i ∧ Cut secrets input (i + 1) := by
  refine hcut.succ fun o ho hi => ?_
  have hstop := ho.stop_le_longestMatch
  have hlt := ho.start_lt
  subst hi
  unfold move at h
  simp only [Bool.not_true, Bool.false_and, Bool.false_eq_true, if_false] at h
  split at h
  · omega
  · split at h <;> simp at h

/-- **What is hidden at a cut is a span**, and it ends at a cut. -/
theorem hide_spec {i extra : Nat} {b : UInt8} {rest : Bytes} (hcut : Cut secrets input i)
    (hrest : input.drop i = b :: rest) (h : move secrets true (b :: rest) = .hide extra) :
    IsSpan secrets input ⟨i, i + (extra + 1)⟩ ∧ Cut secrets input (i + (extra + 1)) := by
  obtain ⟨n, hlong, hgrow, hle, -⟩ := move_hide h
  rw [← hrest] at hlong
  have ho : Occurs secrets input ⟨i, i + (n + 1)⟩ := by
    rw [← hlong]
    exact occurs_of_longestMatch (by omega)
  obtain ⟨hheld, hend⟩ := growSpan_spec ho (drop_succ_of_drop_eq hrest).symm
    ⟨_, Relation.ReflTransGen.refl, by simp, by simp only; omega⟩ hgrow
  have hcut' : Cut secrets input (i + (extra + 1)) := by
    intro q hq
    by_cases hqi : q.start = i
    · have := hq.stop_le_longestMatch
      rw [hqi, hlong] at this
      omega
    · have := hcut q hq
      have := hend q hq
      omega
  refine ⟨isSpan_of_cuts ho hcut hcut' (Nat.le_refl _) (by simp only; omega) fun k h1 h2 => ?_,
    hcut'⟩
  by_cases hk : k = i
  · exact ⟨_, Relation.ReflTransGen.refl, by simp only [Span.Holds]; omega⟩
  · exact hheld k (by omega) (by omega)

/-! ## The pieces of a scan -/

theorem marker_ne_nil : marker ≠ [] := by decide

theorem newline_notMem_marker : newline ∉ marker := by decide +kernel

theorem getElem?_of_drop_eq {i : Nat} {b : UInt8} {rest : Bytes} (h : input.drop i = b :: rest) :
    input[i]? = some b := by
  have hget : (input.drop i)[0]? = input[i + 0]? := List.getElem?_drop
  rw [h] at hget
  simpa using hget.symm

/-- One mark on a new line for each newline. -/
theorem flatMap_newlines (bytes : Bytes) :
    (bytes.filter (· = newline)).flatMap (fun b => b :: marker) =
      (List.replicate (bytes.count newline) (newline :: marker)).flatten := by
  induction bytes with
  | nil => rfl
  | cons b rest ih =>
    by_cases hb : b = newline
    · subst hb
      rw [List.filter_cons_of_pos (by simp), List.count_cons_self, List.replicate_succ,
        List.flatten_cons, List.flatMap_cons, ih]
    · rw [List.filter_cons_of_neg (by simpa using hb), List.count_cons_of_ne (by simpa using hb),
        ih]

theorem bytes_of_drop_eq {i extra : Nat} {b : UInt8} {rest : Bytes} (h : input.drop i = b :: rest) :
    Span.bytes ⟨i, i + (extra + 1)⟩ input = b :: rest.take extra := by
  unfold Span.bytes
  rw [h, Nat.add_sub_cancel_left, List.take_succ_cons]

/-- A span looks as its bytes are replaced. -/
theorem shown_hidden {i extra : Nat} {b : UInt8} {rest : Bytes} (h : input.drop i = b :: rest) :
    Piece.shown input (.hidden ⟨i, i + (extra + 1)⟩) = replacement (b :: rest.take extra) := by
  rw [Piece.shown, replacement, bytes_of_drop_eq h, flatMap_newlines]

/-- **The last scan of a stream, from a cut on, gives the output of its pieces**, and they are
right. -/
theorem scan_tiles {i : Nat} (hcut : Cut secrets input i) (hle : i ≤ input.length) :
    Tiles secrets input i (pieces secrets i (input.drop i)) ∧
      (scan secrets true (input.drop i)).output =
        (pieces secrets i (input.drop i)).flatMap (Piece.shown input) := by
  match hrest : input.drop i with
  | [] =>
    have hi : i = input.length := Nat.le_antisymm hle (List.drop_eq_nil_iff.mp hrest)
    subst hi
    rw [pieces_nil, scan_nil]
    exact ⟨Tiles.done, rfl⟩
  | b :: rest =>
    have hlt : i < input.length := by
      have hlen := congrArg List.length hrest
      rw [List.length_drop, List.length_cons] at hlen
      omega
    have hrest' := drop_succ_of_drop_eq hrest
    cases hm : move secrets true (b :: rest) with
    | wait => exact absurd hm (move_ne_wait_of_atEnd _)
    | forward =>
      obtain ⟨hnot, hcut'⟩ := forward_spec hcut (hrest.symm ▸ hm)
      obtain ⟨hps, hout⟩ := scan_tiles hcut' hlt
      rw [← hrest'] at hps hout
      rw [pieces_forward hm, scan_forward hm, List.flatMap_cons, hout, Piece.shown,
        getElem?_of_drop_eq hrest]
      exact ⟨Tiles.keep hlt hnot hps, rfl⟩
    | hide extra =>
      obtain ⟨hspan, hcut'⟩ := hide_spec hcut hrest hm
      have hdrop : input.drop (i + (extra + 1)) = rest.drop extra := by
        rw [hrest', List.drop_drop, Nat.add_assoc, Nat.add_comm 1]
      obtain ⟨hps, hout⟩ := scan_tiles hcut' hspan.stop_le
      rw [hdrop] at hps hout
      rw [pieces_hide hm, scan_hide hm, List.flatMap_cons, shown_hidden hrest, hout]
      exact ⟨Tiles.hide hspan hps, rfl⟩
termination_by input.length - i

theorem tiles_pieces (secrets : List Bytes) (input : Bytes) :
    Tiles secrets input 0 (pieces secrets 0 input) :=
  (scan_tiles cut_zero (Nat.zero_le _)).1

/-- **A redacted string is a row of pieces.** -/
theorem redact_eq_pieces (secrets : List Bytes) (input : Bytes) :
    redact secrets input = (pieces secrets 0 input).flatMap (Piece.shown input) :=
  (scan_tiles cut_zero (Nat.zero_le _)).2

theorem exists_tiles (secrets : List Bytes) (input : Bytes) : ∃ ps, Tiles secrets input 0 ps ∧
    redact secrets input = ps.flatMap (Piece.shown input) :=
  ⟨_, tiles_pieces secrets input, redact_eq_pieces secrets input⟩

/-! ## Which pieces there are -/

/-- What is kept is not covered, and what is hidden is a span. -/
theorem Tiles.sound {i : Nat} {ps : List Piece} (h : Tiles secrets input i ps) :
    (∀ k, .kept k ∈ ps → k < input.length ∧ ¬ Covered secrets input k) ∧
      ∀ s, .hidden s ∈ ps → IsSpan secrets input s := by
  induction h with
  | done => exact ⟨fun _ hk => absurd hk List.not_mem_nil, fun _ hs => absurd hs List.not_mem_nil⟩
  | keep hlt hnot _ ih =>
    refine ⟨fun k hk => ?_, fun s hs => ?_⟩
    · rcases List.mem_cons.mp hk with hk | hk
      · obtain rfl := Piece.kept.inj hk
        exact ⟨hlt, hnot⟩
      · exact ih.1 k hk
    · exact ih.2 s (List.mem_of_ne_of_mem (by simp) hs)
  | hide hs' _ ih =>
    refine ⟨fun k hk => ih.1 k (List.mem_of_ne_of_mem (by simp) hk), fun s hs => ?_⟩
    rcases List.mem_cons.mp hs with hs | hs
    · exact Piece.hidden.inj hs ▸ hs'
    · exact ih.2 s hs

/-- Every position from the start on belongs to a piece. -/
theorem Tiles.exists_holds {i : Nat} {ps : List Piece} (h : Tiles secrets input i ps) {k : Nat}
    (hik : i ≤ k) (hk : k < input.length) : ∃ p ∈ ps, p.span.Holds k := by
  induction h with
  | done => omega
  | @keep i ps hlt _ _ ih =>
    by_cases hki : k = i
    · exact ⟨_, List.mem_cons_self, by simp only [Piece.span, Span.Holds]; omega⟩
    · obtain ⟨p, hp, hpk⟩ := ih (by omega)
      exact ⟨p, List.mem_cons_of_mem _ hp, hpk⟩
  | @hide s ps _ _ ih =>
    by_cases hks : k < s.stop
    · exact ⟨_, List.mem_cons_self, hik, hks⟩
    · obtain ⟨p, hp, hpk⟩ := ih (by omega)
      exact ⟨p, List.mem_cons_of_mem _ hp, hpk⟩

theorem Tiles.start_le {i : Nat} {ps : List Piece} (h : Tiles secrets input i ps) :
    ∀ p ∈ ps, i ≤ p.span.start := by
  induction h with
  | done => exact fun _ hp => absurd hp List.not_mem_nil
  | keep _ _ _ ih =>
    intro p hp
    rcases List.mem_cons.mp hp with rfl | hp
    · exact Nat.le_refl _
    · exact Nat.le_trans (Nat.le_succ _) (ih p hp)
  | hide hs _ ih =>
    intro p hp
    rcases List.mem_cons.mp hp with rfl | hp
    · exact Nat.le_refl _
    · exact Nat.le_trans (Nat.le_of_lt hs.start_lt) (ih p hp)

/-- Pieces stand in the order of the input. -/
theorem Tiles.pairwise {i : Nat} {ps : List Piece} (h : Tiles secrets input i ps) :
    ps.Pairwise fun p q => p.span.stop ≤ q.span.start := by
  induction h with
  | done => exact List.Pairwise.nil
  | keep _ _ hps ih => exact List.Pairwise.cons hps.start_le ih
  | hide _ hps ih => exact List.Pairwise.cons hps.start_le ih

theorem kept_holds_iff {k i : Nat} : (Piece.kept k).span.Holds i ↔ i = k := by
  simp only [Piece.span, Span.Holds]
  omega

/-- All bytes that are not covered are kept. -/
theorem Tiles.kept_of_not_covered {ps : List Piece} (h : Tiles secrets input 0 ps) {i : Nat}
    (hlt : i < input.length) (hnot : ¬ Covered secrets input i) : .kept i ∈ ps := by
  obtain ⟨p, hp, hpi⟩ := h.exists_holds (Nat.zero_le i) hlt
  cases p with
  | kept k => exact kept_holds_iff.mp hpi ▸ hp
  | hidden s => exact absurd ((h.sound.2 s hp).covered hpi) hnot

/-- All bytes that are covered are hidden. -/
theorem Tiles.exists_hidden_of_covered {ps : List Piece} (h : Tiles secrets input 0 ps) {i : Nat}
    (hcov : Covered secrets input i) : ∃ s, .hidden s ∈ ps ∧ s.Holds i := by
  obtain ⟨p, hp, hpi⟩ := h.exists_holds (Nat.zero_le i) hcov.lt_length
  cases p with
  | kept k => exact absurd (kept_holds_iff.mp hpi ▸ hcov) (h.sound.1 k hp).2
  | hidden s => exact ⟨s, hp, hpi⟩

/-- All spans are hidden. -/
theorem Tiles.hidden_of_isSpan {ps : List Piece} (h : Tiles secrets input 0 ps) {s : Span}
    (hs : IsSpan secrets input s) : .hidden s ∈ ps := by
  obtain ⟨t, ht, hts⟩ := h.exists_hidden_of_covered (hs.covered hs.holds_start)
  rw [isSpan_unique hs (h.sound.2 t ht) hs.holds_start hts]
  exact ht

/-- **Redaction hides exactly the secrets.** The output is a row of pieces in the order of the
input: the byte at each position that no secret covers, and the marks of each span, which is a
class of occurrences linked by shared bytes. -/
theorem redact_hides_exactly (set : SecretSet) (input : Bytes) :
    ∃ pieces : List Piece,
      set.redactBytes input = pieces.flatMap (Piece.shown input) ∧
      pieces.Pairwise (fun p q => p.span.stop ≤ q.span.start) ∧
      (∀ i, .kept i ∈ pieces ↔ i < input.length ∧ ¬ Covered set.bytes input i) ∧
      ∀ s, .hidden s ∈ pieces ↔ IsSpan set.bytes input s := by
  obtain ⟨ps, htiles, hout⟩ := exists_tiles set.bytes input
  refine ⟨ps, ?_, htiles.pairwise, fun i => ⟨htiles.sound.1 i, ?_⟩,
    fun s => ⟨htiles.sound.2 s, htiles.hidden_of_isSpan⟩⟩
  · exact hout
  · rintro ⟨hlt, hnot⟩
    exact htiles.kept_of_not_covered hlt hnot

/-- Two secrets share a byte, and one of them goes over a line end; a third one only touches
them. -/
theorem redact_hides_exactly_touching :
    let set : SecretSet := ⟨["ab\nc", "cde", "fg"]⟩
    let input := Utf8.encode "xab\ncdefgy"
    ∃ pieces : List Piece,
      set.redactBytes input = Utf8.encode "x[REDACTED]\n[REDACTED][REDACTED]y" ∧
      set.redactBytes input = pieces.flatMap (Piece.shown input) ∧
      (.hidden ⟨1, 7⟩ ∈ pieces ∧ .hidden ⟨7, 9⟩ ∈ pieces) ∧
      ∀ i, .kept i ∈ pieces ↔ i = 0 ∨ i = 9 := by
  intro set input
  have hpieces : pieces set.bytes 0 input =
      [.kept 0, .hidden ⟨1, 7⟩, .hidden ⟨7, 9⟩, .kept 9] := by decide +kernel
  obtain ⟨hkept, hhidden⟩ := (tiles_pieces set.bytes input).sound
  rw [hpieces] at hkept hhidden
  obtain ⟨ps, hout, -, hps, hspans⟩ := redact_hides_exactly set input
  refine ⟨ps, by decide +kernel, hout, ⟨?_, ?_⟩, fun i => ⟨fun hi => ?_, ?_⟩⟩
  · exact (hspans _).mpr (hhidden _ (by simp))
  · exact (hspans _).mpr (hhidden _ (by simp))
  · obtain ⟨hlt, hnot⟩ := (hps i).mp hi
    have hmem := (tiles_pieces set.bytes input).kept_of_not_covered hlt hnot
    rw [hpieces] at hmem
    simpa using hmem
  · rintro (rfl | rfl)
    · exact (hps 0).mpr (hkept 0 (by simp))
    · exact (hps 9).mpr (hkept 9 (by simp))

end Stepwise.Redaction
