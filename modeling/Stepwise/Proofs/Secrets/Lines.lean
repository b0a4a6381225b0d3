import Mathlib.Data.List.Forall2
import Stepwise.Proofs.Secrets.Pieces

/-!
# Redaction line by line

A span that goes over several lines is replaced by a mark on each of them, so a reader who looks for
a line by its number finds it. Only a newline that ends a span is lost.

* `linesOf`, `lineSpans`: the lines of a byte string, as byte strings and as stretches of positions.
* `IsRow`: the pieces that a line shows, if of every span that has a byte in the line there is one
  mark.
* `IsRow.keep`, `IsRow.hide`, `IsRow.inside`, `IsRow.endLine`: the pieces of a line from those of
  the line without its first byte.
* `Tiles.count_newline`: **newlines are lost only at the ends of spans.**
* `Tiles.redactedLines`: if no span ends with a newline, **the lines of the output are the lines of
  the input, each redacted.**
* `redact_keeps_lines`: both together.
-/

namespace Stepwise.Redaction

/-! ## Lines -/

/-- The lines of a byte string, each with the newline that ends it. -/
def linesOf : Bytes → List Bytes
  | [] => []
  | b :: rest =>
    if b = newline then [b] :: linesOf rest
    else (b :: (linesOf rest).headD []) :: (linesOf rest).tail

/-- The lines of a byte string as stretches of positions, its first byte standing at position
`i`. -/
def lineSpans (i : Nat) : Bytes → List Span
  | [] => []
  | b :: rest =>
    if b = newline then ⟨i, i + 1⟩ :: lineSpans (i + 1) rest
    else ⟨i, ((lineSpans (i + 1) rest).headD ⟨i + 1, i + 1⟩).stop⟩ :: (lineSpans (i + 1) rest).tail

theorem linesOf_newline (rest : Bytes) : linesOf (newline :: rest) = [newline] :: linesOf rest := by
  rw [linesOf, if_pos rfl]

/-- Bytes without a newline go to the front of the first line. -/
theorem linesOf_append {bytes : Bytes} (hne : bytes ≠ []) (h : newline ∉ bytes) (rest : Bytes) :
    linesOf (bytes ++ rest) = (bytes ++ (linesOf rest).headD []) :: (linesOf rest).tail := by
  induction bytes with
  | nil => exact absurd rfl hne
  | cons b bytes ih =>
    rw [List.mem_cons, not_or] at h
    rw [List.cons_append, linesOf, if_neg (Ne.symm h.1)]
    cases bytes with
    | nil => rfl
    | cons c bytes => rw [ih (by simp) h.2]; rfl

theorem headD_cons_tail_linesOf {bytes : Bytes} (h : bytes ≠ []) :
    (linesOf bytes).headD [] :: (linesOf bytes).tail = linesOf bytes := by
  cases bytes with
  | nil => exact absurd rfl h
  | cons b rest => rw [linesOf]; split <;> rfl

theorem lineSpans_newline (i : Nat) (rest : Bytes) :
    lineSpans i (newline :: rest) = ⟨i, i + 1⟩ :: lineSpans (i + 1) rest := by
  rw [lineSpans, if_pos rfl]

/-- The first line begins with the first byte, and holds it if there is one. -/
theorem exists_lineSpans_head (i : Nat) (bytes : Bytes) :
    ∃ stop, (lineSpans i bytes).headD ⟨i, i⟩ = ⟨i, stop⟩ ∧ i ≤ stop ∧ (bytes ≠ [] → i < stop) := by
  induction bytes generalizing i with
  | nil => exact ⟨i, rfl, Nat.le_refl i, fun h => absurd rfl h⟩
  | cons b rest ih =>
    by_cases hb : b = newline
    · subst hb
      rw [lineSpans_newline]
      exact ⟨i + 1, rfl, Nat.le_succ i, fun _ => Nat.lt_succ_self i⟩
    · obtain ⟨stop, hstop, hle, -⟩ := ih (i + 1)
      rw [lineSpans, if_neg hb, hstop]
      exact ⟨stop, rfl, Nat.le_of_succ_le hle, fun _ => hle⟩

/-- A byte that is no newline begins the line that the bytes after it go on with. -/
theorem lineSpans_cons_of_ne {i stop : Nat} {b : UInt8} {rest : Bytes} (hb : b ≠ newline)
    (h : (lineSpans (i + 1) rest).headD ⟨i + 1, i + 1⟩ = ⟨i + 1, stop⟩) :
    lineSpans i (b :: rest) = ⟨i, stop⟩ :: (lineSpans (i + 1) rest).tail := by
  rw [lineSpans, if_neg hb, h]

variable {secrets : List Bytes} {input : Bytes}

theorem bytes_cons {i stop : Nat} {b : UInt8} {rest : Bytes} (h : input.drop i = b :: rest)
    (hlt : i < stop) : Span.bytes ⟨i, stop⟩ input = b :: Span.bytes ⟨i + 1, stop⟩ input := by
  unfold Span.bytes
  simp only
  rw [h, ← drop_succ_of_drop_eq h, ← List.take_succ_cons]
  congr 1
  omega

/-- **The stretches are where the lines stand.** -/
theorem bytes_lineSpans {i : Nat} {rest : Bytes} (h : input.drop i = rest) :
    (lineSpans i rest).map (Span.bytes · input) = linesOf rest := by
  induction rest generalizing i with
  | nil => rfl
  | cons b rest ih =>
    have ih := ih (drop_succ_of_drop_eq h).symm
    by_cases hb : b = newline
    · subst hb
      rw [lineSpans_newline, linesOf_newline, List.map_cons, ih, bytes_cons h (Nat.lt_succ_self i)]
      simp [Span.bytes]
    · obtain ⟨stop, hstop, hle, -⟩ := exists_lineSpans_head (i + 1) rest
      have hfirst : (linesOf rest).headD [] = Span.bytes ⟨i + 1, stop⟩ input := by
        rw [← hstop, ← ih]
        cases lineSpans (i + 1) rest <;> simp [Span.bytes]
      rw [lineSpans_cons_of_ne hb hstop, linesOf, if_neg hb, hfirst, ← ih, List.map_cons,
        List.map_tail, bytes_cons h hle]

/-! ## What a line shows -/

/-- The newline that ends a line, if one does. -/
def Span.ending (input : Bytes) (line : Span) : Bytes :=
  if line.start < line.stop ∧ input[line.stop - 1]? = some newline then [newline] else []

/-- What a piece looks like in a line: of a span there is one mark. -/
def Piece.inLine (input : Bytes) : Piece → Bytes
  | .kept i => input[i]?.toList
  | .hidden _ => marker

variable (secrets input) in
/-- The pieces of a line, in order: the bytes of the line that no secret covers, without the newline
that ends it, and the spans that have a byte in the line, be it that newline. -/
structure IsRow (line : Span) (ps : List Piece) : Prop where
  pairwise : ps.Pairwise fun p q => p.span.stop ≤ q.span.start
  kept_iff : ∀ i, .kept i ∈ ps ↔
    line.Holds i ∧ input[i]? ≠ some newline ∧ ¬ Covered secrets input i
  hidden_iff : ∀ s, .hidden s ∈ ps ↔ IsSpan secrets input s ∧ ∃ i, line.Holds i ∧ s.Holds i

variable (secrets input) in
/-- A line of the input with one mark for the bytes of every span in it, and its end kept. -/
def RedactedLine (line : Span) (shown : Bytes) : Prop :=
  ∃ ps, IsRow secrets input line ps ∧ shown = ps.flatMap (Piece.inLine input) ++ line.ending input

theorem holds_cons_iff {i stop k : Nat} (hle : i + 1 ≤ stop) :
    Span.Holds ⟨i, stop⟩ k ↔ k = i ∨ Span.Holds ⟨i + 1, stop⟩ k := by
  simp only [Span.Holds]
  omega

theorem not_holds_empty {i k : Nat} : ¬ Span.Holds ⟨i, i⟩ k := by
  simp only [Span.Holds]
  omega

theorem IsRow.nil (i : Nat) : IsRow secrets input ⟨i, i⟩ [] where
  pairwise := List.Pairwise.nil
  kept_iff k := by simp [not_holds_empty]
  hidden_iff s := by simp [not_holds_empty]

section

variable {i stop : Nat} {ps : List Piece} (hrow : IsRow secrets input ⟨i + 1, stop⟩ ps)
  (hle : i + 1 ≤ stop)

include hrow hle

/-- A byte that ends the line or is covered is not kept. -/
theorem IsRow.kept_iff_cons (hi : input[i]? ≠ some newline → Covered secrets input i) (k : Nat) :
    .kept k ∈ ps ↔
      Span.Holds ⟨i, stop⟩ k ∧ input[k]? ≠ some newline ∧ ¬ Covered secrets input k := by
  rw [hrow.kept_iff, holds_cons_iff hle, or_and_right]
  have hne : ¬ (k = i ∧ input[k]? ≠ some newline ∧ ¬ Covered secrets input k) :=
    fun ⟨hk, hb, hnot⟩ => hnot (hk ▸ hi (hk ▸ hb))
  simp only [hne, false_or]

/-- A byte that is not covered is in no span. -/
theorem IsRow.hidden_iff_cons (hnot : ¬ Covered secrets input i) (s : Span) :
    .hidden s ∈ ps ↔ IsSpan secrets input s ∧ ∃ k, Span.Holds ⟨i, stop⟩ k ∧ s.Holds k := by
  rw [hrow.hidden_iff]
  refine and_congr_right fun hs => exists_congr fun k => and_congr_left fun hk => ?_
  have hne : k ≠ i := fun h => hnot (hs.covered (h ▸ hk))
  simp [holds_cons_iff hle, hne]

/-- A newline that is not covered belongs to no piece. -/
theorem IsRow.endLine (hb : input[i]? = some newline) (hnot : ¬ Covered secrets input i) :
    IsRow secrets input ⟨i, stop⟩ ps where
  pairwise := hrow.pairwise
  kept_iff := hrow.kept_iff_cons hle fun hne => absurd hb hne
  hidden_iff := hrow.hidden_iff_cons hle hnot

/-- A byte that is not covered is the first piece. -/
theorem IsRow.keep (hb : input[i]? ≠ some newline) (hnot : ¬ Covered secrets input i) :
    IsRow secrets input ⟨i, stop⟩ (.kept i :: ps) where
  pairwise := by
    refine List.Pairwise.cons (fun p hp => ?_) hrow.pairwise
    cases p with
    | kept k => exact ((hrow.kept_iff k).mp hp).1.1
    | hidden s =>
      obtain ⟨hs, k, hk, hsk⟩ := (hrow.hidden_iff s).mp hp
      -- a span that began before would cover position `i`
      refine Nat.lt_of_not_le fun hstart => hnot (hs.covered ⟨hstart, ?_⟩)
      exact Nat.lt_trans hk.1 hsk.2
  kept_iff k := by
    rw [List.mem_cons, Piece.kept.injEq, hrow.kept_iff, holds_cons_iff hle]
    constructor
    · rintro (rfl | ⟨hk, hrest⟩)
      · exact ⟨.inl rfl, hb, hnot⟩
      · exact ⟨.inr hk, hrest⟩
    · rintro ⟨hk | hk, hrest⟩
      · exact .inl hk
      · exact .inr ⟨hk, hrest⟩
  hidden_iff s := by
    rw [List.mem_cons, or_iff_right (by simp)]
    exact hrow.hidden_iff_cons hle hnot s

variable {s : Span} (hs : IsSpan secrets input s) (hsi : s.Holds i)

include hs hsi

/-- Inside a span, the first byte of a line adds no piece. -/
theorem IsRow.inside (hnext : s.Holds (i + 1)) (hlt : i + 1 < stop) :
    IsRow secrets input ⟨i, stop⟩ ps where
  pairwise := hrow.pairwise
  kept_iff := hrow.kept_iff_cons hle fun _ => hs.covered hsi
  hidden_iff t := by
    rw [hrow.hidden_iff]
    refine and_congr_right fun ht =>
      ⟨fun ⟨k, hk, htk⟩ => ⟨k, (holds_cons_iff hle).mpr (.inr hk), htk⟩, ?_⟩
    rintro ⟨k, hk, htk⟩
    rcases (holds_cons_iff hle).mp hk with rfl | hk
    · exact ⟨k + 1, ⟨Nat.le_refl _, hlt⟩, isSpan_unique hs ht hsi htk ▸ hnext⟩
    · exact ⟨k, hk, htk⟩

/-- The last byte of a span in a line adds the span. -/
theorem IsRow.hide (hlast : ∀ k, Span.Holds ⟨i + 1, stop⟩ k → ¬ s.Holds k) :
    IsRow secrets input ⟨i, stop⟩ (.hidden s :: ps) where
  pairwise := by
    refine List.Pairwise.cons (fun p hp => ?_) hrow.pairwise
    show s.stop ≤ p.span.start
    have hstop : ∀ k, Span.Holds ⟨i + 1, stop⟩ k → s.stop ≤ k := fun k hk =>
      Nat.le_of_not_lt fun hlt => hlast k hk ⟨Nat.le_trans hsi.1 (Nat.le_of_succ_le hk.1), hlt⟩
    cases p with
    | kept k => exact hstop k ((hrow.kept_iff k).mp hp).1
    | hidden t =>
      obtain ⟨ht, k, hk, htk⟩ := (hrow.hidden_iff t).mp hp
      have hsk := hstop k hk
      refine Nat.le_of_not_lt fun (hstart : t.start < s.stop) => hlast k hk ?_
      -- else both hold the last position of `s`
      have hlt := hs.start_lt
      have hshared : s = t := isSpan_unique hs ht (i := s.stop - 1) ⟨by omega, by omega⟩
        ⟨by omega, by have := htk.2; omega⟩
      exact hshared ▸ htk
  kept_iff k := by
    rw [List.mem_cons, or_iff_right (by simp)]
    exact hrow.kept_iff_cons hle (fun _ => hs.covered hsi) k
  hidden_iff t := by
    rw [List.mem_cons, Piece.hidden.injEq, hrow.hidden_iff]
    constructor
    · rintro (rfl | ⟨ht, k, hk, htk⟩)
      · exact ⟨hs, i, (holds_cons_iff hle).mpr (.inl rfl), hsi⟩
      · exact ⟨ht, k, (holds_cons_iff hle).mpr (.inr hk), htk⟩
    · rintro ⟨ht, k, hk, htk⟩
      rcases (holds_cons_iff hle).mp hk with rfl | hk
      · exact .inl (isSpan_unique hs ht hsi htk).symm
      · exact .inr ⟨ht, k, hk, htk⟩

end

/-! ## From the last byte to the first -/

theorem ending_newline {i : Nat} (hb : input[i]? = some newline) :
    Span.ending input ⟨i, i + 1⟩ = [newline] :=
  if_pos ⟨Nat.lt_succ_self i, hb⟩

/-- The end of a line does not depend on where it begins. -/
theorem ending_cons {i stop : Nat} (hb : input[i]? ≠ some newline) (hle : i + 1 ≤ stop) :
    Span.ending input ⟨i, stop⟩ = Span.ending input ⟨i + 1, stop⟩ := by
  unfold Span.ending
  rcases Nat.lt_or_eq_of_le hle with hlt | rfl
  · simp only [hlt, show i < stop from hle, true_and]
  · simp only [Nat.add_sub_cancel, hb, and_false, Nat.lt_irrefl]

theorem redactedLine_empty (i : Nat) : RedactedLine secrets input ⟨i, i⟩ [] :=
  ⟨[], IsRow.nil i, by simp [Span.ending]⟩

theorem redactedLine_newline {i : Nat} (hb : input[i]? = some newline)
    (hnot : ¬ Covered secrets input i) :
    RedactedLine secrets input ⟨i, i + 1⟩ [newline] :=
  ⟨[], (IsRow.nil (i + 1)).endLine (Nat.le_refl _) hb hnot, by rw [ending_newline hb]; rfl⟩

theorem redactedLine_hidden_newline {i : Nat} {s : Span} (hb : input[i]? = some newline)
    (hs : IsSpan secrets input s) (hsi : s.Holds i) :
    RedactedLine secrets input ⟨i, i + 1⟩ (marker ++ [newline]) :=
  ⟨[.hidden s], (IsRow.nil (i + 1)).hide (Nat.le_refl _) hs hsi fun _ hk =>
    absurd hk not_holds_empty, by rw [ending_newline hb]; rfl⟩

section

variable {i stop : Nat} {line : Bytes} (h : RedactedLine secrets input ⟨i + 1, stop⟩ line)
  (hle : i + 1 ≤ stop)

include h hle

theorem RedactedLine.keep {b : UInt8} (hb : input[i]? = some b) (hne : b ≠ newline)
    (hnot : ¬ Covered secrets input i) : RedactedLine secrets input ⟨i, stop⟩ ([b] ++ line) := by
  obtain ⟨ps, hrow, rfl⟩ := h
  have hne' : input[i]? ≠ some newline := by simpa [hb] using hne
  refine ⟨_, hrow.keep hle hne' hnot, ?_⟩
  rw [ending_cons hne' hle, List.flatMap_cons, Piece.inLine, hb, List.append_assoc]
  rfl

variable {s : Span} (hs : IsSpan secrets input s) (hsi : s.Holds i) (hne : input[i]? ≠ some newline)

include hs hsi hne

theorem RedactedLine.inside (hnext : s.Holds (i + 1)) (hlt : i + 1 < stop) :
    RedactedLine secrets input ⟨i, stop⟩ line := by
  obtain ⟨ps, hrow, rfl⟩ := h
  exact ⟨ps, hrow.inside hle hs hsi hnext hlt, by rw [ending_cons hne hle]⟩

theorem RedactedLine.hide (hlast : s.stop = i + 1) :
    RedactedLine secrets input ⟨i, stop⟩ (marker ++ line) := by
  obtain ⟨ps, hrow, rfl⟩ := h
  refine ⟨_, hrow.hide hle hs hsi fun k hk hsk => ?_, ?_⟩
  · exact absurd (Nat.lt_of_lt_of_le hsk.2 (Nat.le_of_eq hlast)) (Nat.not_lt.mpr hk.1)
  · rw [ending_cons hne hle, List.flatMap_cons, Piece.inLine, List.append_assoc]

end

/-- **One more byte before the lines**, which is no newline: it goes to the first of them. -/
theorem forall₂_cons {i : Nat} {b : UInt8} {rest front : Bytes} {shown : List Bytes}
    (hb : b ≠ newline)
    (hlines : List.Forall₂ (RedactedLine secrets input) (lineSpans (i + 1) rest) shown)
    (hfirst : ∀ stop line, i + 1 ≤ stop → (rest ≠ [] → i + 1 < stop) →
      RedactedLine secrets input ⟨i + 1, stop⟩ line →
        RedactedLine secrets input ⟨i, stop⟩ (front ++ line)) :
    List.Forall₂ (RedactedLine secrets input) (lineSpans i (b :: rest))
      ((front ++ shown.headD []) :: shown.tail) := by
  obtain ⟨stop, hstop, hle, hlt⟩ := exists_lineSpans_head (i + 1) rest
  rw [lineSpans_cons_of_ne hb hstop]
  generalize lineSpans (i + 1) rest = lines at hlines hstop
  have hhead : RedactedLine secrets input ⟨i + 1, stop⟩ (shown.headD []) := by
    rw [← hstop]
    cases hlines with
    | nil => exact redactedLine_empty (i + 1)
    | cons h _ => exact h
  have htail : List.Forall₂ (RedactedLine secrets input) lines.tail shown.tail := by
    cases hlines with
    | nil => exact List.Forall₂.nil
    | cons _ hs => exact hs
  exact List.Forall₂.cons (hfirst stop _ hle hlt hhead) htail

/-! ## Spans line by line -/

/-- The marks of what is left of a span: one for its last byte, -/
theorem shown_hidden_last {i : Nat} {b : UInt8} {rest : Bytes} (h : input.drop i = b :: rest) :
    Piece.shown input (.hidden ⟨i, i + 1⟩) = marker := by
  rw [show Piece.shown input (.hidden ⟨i, i + 1⟩) = replacement (b :: rest.take 0) from
    shown_hidden h]
  simp [replacement]

/-- and one more for each newline before. -/
theorem shown_hidden_cons {i stop : Nat} {b : UInt8} (h : input.drop i = b :: input.drop (i + 1))
    (hlt : i + 1 < stop) (hle : stop ≤ input.length) :
    Piece.shown input (.hidden ⟨i, stop⟩) = if b = newline
      then marker ++ newline :: Piece.shown input (.hidden ⟨i + 1, stop⟩)
      else Piece.shown input (.hidden ⟨i + 1, stop⟩) := by
  have hne : Span.bytes ⟨i + 1, stop⟩ input ≠ [] := by
    obtain ⟨c, -, hnext⟩ := exists_drop_cons (Nat.lt_of_lt_of_le hlt hle)
    rw [bytes_cons hnext hlt]
    exact List.cons_ne_nil _ _
  unfold Piece.shown
  simp only
  rw [bytes_cons h (Nat.lt_of_succ_lt hlt), List.dropLast_cons_of_ne_nil hne]
  split
  · rename_i hb
    subst hb
    simp
  · rename_i hb
    rw [List.filter_cons_of_neg (by simpa using hb)]

/-- **A span line by line**: each of its newlines ends a line that shows a mark, and the last byte,
which is no newline, begins the line that goes on after the span. -/
theorem forall₂_hidden {s : Span} (hs : IsSpan secrets input s)
    (hend : input[s.stop - 1]? ≠ some newline) {after : Bytes}
    (hafter : List.Forall₂ (RedactedLine secrets input) (lineSpans s.stop (input.drop s.stop))
      (linesOf after)) {i : Nat} (hi : s.Holds i) :
    List.Forall₂ (RedactedLine secrets input) (lineSpans i (input.drop i))
      (linesOf (Piece.shown input (.hidden ⟨i, s.stop⟩) ++ after)) := by
  have hle := hs.stop_le
  obtain ⟨b, hb, hdrop⟩ := exists_drop_cons (Nat.lt_of_lt_of_le hi.2 hle)
  rw [hdrop]
  by_cases hlast : i + 1 = s.stop
  · have hne : b ≠ newline := fun h => hend (by rw [← hlast, Nat.add_sub_cancel, hb, h])
    rw [← hlast] at hafter ⊢
    rw [shown_hidden_last hdrop, linesOf_append marker_ne_nil newline_notMem_marker]
    exact forall₂_cons hne hafter fun stop line hle _ hline =>
      hline.hide hle hs hi (by simpa [hb] using hne) hlast.symm
  · have hnext : s.Holds (i + 1) := ⟨Nat.le_succ_of_le hi.1, Nat.lt_of_le_of_ne hi.2 hlast⟩
    have ih := forall₂_hidden hs hend hafter hnext
    rw [shown_hidden_cons hdrop hnext.2 hle]
    split
    · rename_i hnl
      subst hnl
      rw [List.append_assoc, linesOf_append marker_ne_nil newline_notMem_marker, List.cons_append,
        linesOf_newline, lineSpans_newline]
      exact List.Forall₂.cons (redactedLine_hidden_newline hb hs hi) ih
    · rename_i hne
      have hmore : input.drop (i + 1) ≠ [] :=
        mt List.drop_eq_nil_iff.mp (Nat.not_le.mpr (Nat.lt_of_lt_of_le hnext.2 hle))
      have hshown : Piece.shown input (.hidden ⟨i + 1, s.stop⟩) ++ after ≠ [] := by
        simp [Piece.shown, marker_ne_nil]
      -- nothing is put before the first line
      rw [← headD_cons_tail_linesOf hshown, ← List.nil_append (List.headD _ _)]
      exact forall₂_cons hne ih fun stop line hle hlt hline =>
        hline.inside hle hs hi (by simpa [hb] using hne) hnext (hlt hmore)
termination_by s.stop - i
decreasing_by exact Nat.sub_lt_sub_left hi.2 (Nat.lt_succ_self i)

/-- **The lines of the output are the lines of the input, each redacted**, from any piece on, if no
span ends with a newline. -/
theorem Tiles.redactedLines
    (hends : ∀ s, IsSpan secrets input s → input[s.stop - 1]? ≠ some newline) {i : Nat}
    {ps : List Piece} (h : Tiles secrets input i ps) :
    List.Forall₂ (RedactedLine secrets input) (lineSpans i (input.drop i))
      (linesOf (ps.flatMap (Piece.shown input))) := by
  induction h with
  | done => simp [lineSpans, linesOf]
  | @keep i ps hlt hnot _ ih =>
    obtain ⟨b, hb, hdrop⟩ := exists_drop_cons hlt
    rw [hdrop, List.flatMap_cons, Piece.shown, hb, Option.toList_some]
    by_cases hne : b = newline
    · subst hne
      rw [List.singleton_append, linesOf_newline, lineSpans_newline]
      exact List.Forall₂.cons (redactedLine_newline hb hnot) ih
    · rw [linesOf_append (by simp) (by simpa [eq_comm] using hne)]
      exact forall₂_cons hne ih fun stop line hle _ hline => hline.keep hle hb hne hnot
  | @hide s ps hs _ ih =>
    rw [List.flatMap_cons]
    exact forall₂_hidden hs (hends s hs) ih hs.holds_start

/-! ## Newlines -/

/-- The span of a piece if its last byte is a newline. -/
def Piece.ended (input : Bytes) : Piece → List Span
  | .kept _ => []
  | .hidden s => if input[s.stop - 1]? = some newline then [s] else []

theorem mem_ended_iff {ps : List Piece} {s : Span} :
    s ∈ ps.flatMap (Piece.ended input) ↔ .hidden s ∈ ps ∧ input[s.stop - 1]? = some newline := by
  rw [List.mem_flatMap]
  constructor
  · rintro ⟨p, hp, hps⟩
    cases p with
    | kept i => exact absurd hps List.not_mem_nil
    | hidden t =>
      rw [Piece.ended] at hps
      split at hps
      · rename_i hend
        obtain rfl := List.mem_singleton.mp hps
        exact ⟨hp, hend⟩
      · exact absurd hps List.not_mem_nil
  · rintro ⟨hp, hend⟩
    exact ⟨_, hp, by rw [Piece.ended, if_pos hend]; exact List.mem_singleton_self s⟩

/-- No span is listed twice. -/
theorem Tiles.nodup_ended {i : Nat} {ps : List Piece} (h : Tiles secrets input i ps) :
    (ps.flatMap (Piece.ended input)).Nodup := by
  induction h with
  | done => exact List.nodup_nil
  | keep _ _ _ ih => exact ih
  | @hide s ps hs hps ih =>
    rw [List.flatMap_cons, Piece.ended]
    split
    · refine List.nodup_cons.mpr ⟨fun hmem => ?_, ih⟩
      -- the pieces after `s` start where it stops, or later
      have hstart : s.stop ≤ s.start := hps.start_le _ (mem_ended_iff.mp hmem).1
      exact absurd hs.start_lt (Nat.not_lt.mpr hstart)
    · exact ih

/-- A span is its first bytes and its last one. -/
theorem exists_bytes_concat {s : Span} (hs : IsSpan secrets input s) :
    ∃ front b, s.bytes input = front ++ [b] ∧ input[s.stop - 1]? = some b := by
  have hlt := hs.start_lt
  have hle := hs.stop_le
  have hlast : input[s.stop - 1]? = some input[s.stop - 1] := List.getElem?_eq_getElem (by omega)
  refine ⟨(input.drop s.start).take (s.stop - 1 - s.start), input[s.stop - 1], ?_, hlast⟩
  have hlength : s.stop - s.start = s.stop - 1 - s.start + 1 := by omega
  have hsum : s.start + (s.stop - 1 - s.start) = s.stop - 1 := by omega
  rw [Span.bytes, hlength, List.take_add_one, List.getElem?_drop, hsum, hlast]
  rfl

theorem count_marks (bytes : Bytes) :
    (marker ++ (bytes.filter (· = newline)).flatMap fun b => b :: marker).count newline =
      bytes.count newline := by
  have hmarker : marker.count newline = 0 := List.count_eq_zero.mpr newline_notMem_marker
  rw [flatMap_newlines, List.count_append, hmarker, Nat.zero_add, List.count_flatten]
  simp [List.map_replicate, hmarker]

/-- The marks of a span have its newlines, but for one at its end. -/
theorem count_shown_hidden {s : Span} (hs : IsSpan secrets input s) :
    (Piece.shown input (.hidden s)).count newline + (Piece.ended input (.hidden s)).length =
      (s.bytes input).count newline := by
  obtain ⟨front, b, hbytes, hb⟩ := exists_bytes_concat hs
  rw [Piece.shown, Piece.ended, hbytes, List.dropLast_concat, count_marks, hb, List.count_append,
    List.count_singleton]
  by_cases h : b = newline <;> simp [h]

theorem drop_start {s : Span} (h : s.start ≤ s.stop) :
    input.drop s.start = s.bytes input ++ input.drop s.stop := by
  rw [Span.bytes, ← Nat.add_sub_cancel' h, ← List.drop_drop, Nat.add_sub_cancel_left,
    List.take_append_drop]

/-- **Newlines are lost only at the ends of spans.** -/
theorem Tiles.count_newline {i : Nat} {ps : List Piece} (h : Tiles secrets input i ps) :
    (ps.flatMap (Piece.shown input)).count newline + (ps.flatMap (Piece.ended input)).length =
      (input.drop i).count newline := by
  induction h with
  | done => simp
  | @keep i ps hlt _ _ ih =>
    obtain ⟨b, hb, hdrop⟩ := exists_drop_cons hlt
    rw [hdrop, List.flatMap_cons, List.flatMap_cons, Piece.shown, hb, Piece.ended,
      List.count_append, List.count_cons, ← ih, Option.toList_some, List.count_singleton,
      List.nil_append]
    omega
  | @hide s ps hs _ ih =>
    rw [drop_start (Nat.le_of_lt hs.start_lt), List.flatMap_cons, List.flatMap_cons,
      List.count_append, List.count_append, List.length_append, ← ih, ← count_shown_hidden hs]
    omega

/-! ## Both together -/

/-- A span ends with the last byte of a secret. -/
theorem getElem?_stop_ne {b : UInt8} (h : ∀ t ∈ secrets, t.getLast? ≠ some b) {s : Span}
    (hs : IsSpan secrets input s) : input[s.stop - 1]? ≠ some b := by
  obtain ⟨p, ⟨t, ht, hne, ⟨rest, hrest⟩, hstop⟩, heq⟩ := hs.exists_stop
  have hpos := List.length_pos_iff.mpr hne
  have hlast : p.start + t.length - 1 = p.start + (t.length - 1) := by omega
  rw [← heq, hstop, hlast, ← List.getElem?_drop, ← hrest, List.getElem?_append_left (by omega),
    ← List.getLast?_eq_getElem?]
  exact h t ht

/-- **Redaction keeps the lines.** The output has the newlines of the input, less one for each span
whose last byte is a newline. If no secret ends with a newline, it has as many lines as the input,
and each of them is the line of the input with one mark for the bytes of every span in it and the
newline at its end kept. -/
theorem redact_keeps_lines (set : SecretSet) (input : Bytes) :
    (∃ ended : List Span, ended.Nodup ∧
      (∀ s, s ∈ ended ↔ IsSpan set.bytes input s ∧ input[s.stop - 1]? = some newline) ∧
      (set.redactBytes input).count newline + ended.length = input.count newline) ∧
    (lineSpans 0 input).map (Span.bytes · input) = linesOf input ∧
    ((∀ s ∈ set.bytes, s.getLast? ≠ some newline) →
      (linesOf (set.redactBytes input)).length = (linesOf input).length ∧
      List.Forall₂ (RedactedLine set.bytes input) (lineSpans 0 input)
        (linesOf (set.redactBytes input))) := by
  obtain ⟨ps, htiles, hout⟩ := exists_tiles set.bytes input
  have hlines : (lineSpans 0 input).map (Span.bytes · input) = linesOf input := bytes_lineSpans rfl
  rw [show set.redactBytes input = _ from hout]
  refine ⟨⟨ps.flatMap (Piece.ended input), ?_, fun s => ?_, htiles.count_newline⟩, hlines,
    fun hends => ?_⟩
  · exact htiles.nodup_ended
  · rw [mem_ended_iff]
    exact and_congr_left fun _ => ⟨htiles.sound.2 s, htiles.hidden_of_isSpan⟩
  · have hall := htiles.redactedLines fun s hs => getElem?_stop_ne hends hs
    rw [List.drop_zero] at hall
    exact ⟨by rw [← hlines, List.length_map, hall.length_eq], hall⟩

/-- Two secrets that overlap over an empty line, and one that begins with the end of a line. -/
theorem redact_keeps_lines_overlap :
    let set : SecretSet := ⟨["ab\ncd", "cd\n\nef", "\ngh"]⟩
    let input := Utf8.encode "xab\ncd\n\nefy\nghz\n"
    let output := ["x[REDACTED]\n", "[REDACTED]\n", "[REDACTED]\n", "[REDACTED]y[REDACTED]\n",
      "[REDACTED]z\n"].map Utf8.encode
    (∀ s ∈ set.bytes, s.getLast? ≠ some newline) ∧
    linesOf (set.redactBytes input) = output ∧
    List.Forall₂ (RedactedLine set.bytes input) (lineSpans 0 input) output := by
  intro set input output
  have hends : ∀ s ∈ set.bytes, s.getLast? ≠ some newline := by decide +kernel
  have hout : linesOf (set.redactBytes input) = output := by decide +kernel
  obtain ⟨-, hall⟩ := (redact_keeps_lines set input).2.2 hends
  exact ⟨hends, hout, hout ▸ hall⟩

end Stepwise.Redaction
