import Mathlib.Logic.Relation
import Stepwise.Proofs.Expansion.Replacing
import Stepwise.Proofs.Text.Boundaries

/-!
# Expansion by positions

An expansion goes through the bytes of a text by positions, one byte at a time, and a byte can be
one of several that make a character. It takes parts of the text at these positions. A part that is
not there is a fault, and so is one that begins or ends inside a character. It cuts the text beside
a `$`, a brace, a special character or the last character of a plain name. These are ASCII bytes,
and an ASCII byte stands between two boundaries.

* `bracedAt?`, `nameAt?`: what follows a `$`, read by positions. `nameAt?_eq`: **it is read without
  a fault.**
* `Cursor.step`: one step. `Cursor.Goes`: a step or an answer. `Cursor.Reached`: where an expansion
  can come to.
* `Cursor.InBounds`: **where an expansion stands**. `Cursor.Taken`: what it takes at a `$`.
  `Cursor.left`: how many steps are left at most. `Cursor.result`: what it will have written.
* `Cursor.step_cases`: **what one step does**. `inBounds_step`, `left_step_lt`, `result_step`: it
  stays in bounds, gets closer to the end and does not change the result.
* `Cursor.inBounds_of_reached`: **an expansion stays in bounds**. `Cursor.val_runReached`: a mapping
  that may do more than answer leads nowhere else. `Cursor.runM_eq`: an expansion ends with its
  result.
* `expand_at_boundaries`: **expansion never cuts a text inside a character.**
-/

namespace Stepwise.Expansion

open Utf8 (IsText IsBoundary slice? slice?_eq slice?_rest isBoundary_drop boundary_length)

/-! ## A name by positions -/

/-- What follows a `$`, read by positions. It begins with an opening brace. -/
def bracedAt? (rest : Bytes) : Option Reading :=
  -- a special character between braces is found without a search
  if rest[1]?.any isSpecial ∧ rest[2]? = some closeBrace then (slice? rest 1 2).map (⟨some ·, 3⟩)
  else match (rest.drop 1).findIdx? (· == closeBrace) with
    | none => some ⟨none, 1⟩
    | some 0 => some ⟨none, 2⟩
    | some (n + 1) => (slice? rest 1 (n + 2)).map (⟨some ·, n + 3⟩)

/-- What follows a `$`, read by positions. The first byte is looked at, so there has to be one. -/
def nameAt? : Bytes → Option Reading
  | [] => none
  | b :: rest =>
    if b = openBrace then bracedAt? (b :: rest)
    else if isSpecial b then (slice? (b :: rest) 0 1).map (⟨some ·, 1⟩)
    else
      let length := ((b :: rest).takeWhile isNameByte).length
      if length = 0 then some ⟨none, 0⟩ else (slice? (b :: rest) 0 length).map (⟨some ·, length⟩)

/-- A kind of bytes is in ASCII if all of its numbers are. -/
theorem lt_of_kind {p : UInt8 → Bool} (hp : ∀ n < 0x100, p (UInt8.ofNat n) → n < 0x80) (b : UInt8)
    (h : p b) :
    b.toNat < 0x80 :=
  hp b.toNat b.toNat_lt (by rwa [UInt8.ofNat_toNat])

theorem lt_of_isSpecial : ∀ b, isSpecial b → b.toNat < 0x80 := lt_of_kind (by decide +kernel)

theorem lt_of_isNameByte : ∀ b, isNameByte b → b.toNat < 0x80 := lt_of_kind (by decide +kernel)

theorem readBraced_of_none {rest : Bytes} (h : rest.findIdx? (· == closeBrace) = none) :
    readBraced rest = ⟨none, 1⟩ := by
  have htake : rest.takeWhile (· != closeBrace) = rest :=
    List.takeWhile_eq_self_iff.mpr fun b hb => by simpa using List.findIdx?_eq_none_iff.mp h b hb
  unfold readBraced
  simp only [htake, if_true]

theorem readBraced_of_some {rest : Bytes} {n : Nat} (h : rest.findIdx? (· == closeBrace) = some n) :
    readBraced rest = if n = 0 then ⟨none, 2⟩ else ⟨some (rest.take n), n + 2⟩ := by
  obtain ⟨hlt, hidx⟩ := List.findIdx?_eq_some_iff_findIdx_eq.mp h
  have htake : rest.takeWhile (· != closeBrace) = rest.take n := by
    simp only [List.takeWhile_eq_take_findIdx_not, bne, Bool.not_not, hidx]
  have hlength : (rest.take n).length = n := by rw [List.length_take]; omega
  unfold readBraced
  simp only [htake, hlength, if_neg (Nat.ne_of_lt hlt), List.isEmpty_iff, ← List.length_eq_zero_iff]

/-- The closing brace behind a special character is the first one. -/
theorem findIdx?_of_isSpecial {rest : Bytes} (hspecial : rest[0]?.any isSpecial)
    (hclose : rest[1]? = some closeBrace) : rest.findIdx? (· == closeBrace) = some 1 := by
  cases rest with
  | nil => exact absurd hspecial Bool.false_ne_true
  | cons s rest =>
    have hs : isSpecial s = true := hspecial
    have hne : (s == closeBrace) = false := by
      refine beq_eq_false_iff_ne.mpr fun heq => ?_
      rw [heq] at hs
      exact absurd hs (by decide)
    cases rest with
    | nil => exact absurd hclose.symm (Option.some_ne_none _)
    | cons c rest =>
      obtain rfl : c = closeBrace := Option.some.inj hclose
      rw [List.findIdx?_cons, hne, List.findIdx?_cons, beq_self_eq_true]
      rfl

/-- **A name between braces is taken between boundaries**, and it is the one that is read. -/
theorem bracedAt?_eq {rest : Bytes} (h : IsText (openBrace :: rest)) :
    bracedAt? (openBrace :: rest) = some (readBraced rest) := by
  have hopen : IsBoundary (openBrace :: rest) 1 := (h.boundary_ascii (i := 0) rfl (by decide)).2
  have hclose : ∀ {n}, rest.findIdx? (· == closeBrace) = some n →
      IsBoundary (openBrace :: rest) (n + 1) := by
    intro n hn
    obtain ⟨hlt, hbyte, -⟩ := List.findIdx?_eq_some_iff_getElem.mp hn
    have hb : (openBrace :: rest)[n + 1]? = some closeBrace := by
      rw [List.getElem?_cons_succ, List.getElem?_eq_getElem hlt, eq_of_beq hbyte]
    exact (h.boundary_ascii hb (by decide)).1
  unfold bracedAt?
  by_cases hspecial :
    (openBrace :: rest)[1]?.any isSpecial ∧ (openBrace :: rest)[2]? = some closeBrace
  · have hone := findIdx?_of_isSpecial hspecial.1 hspecial.2
    rw [if_pos hspecial, slice?_eq (by decide) hopen (hclose hone), readBraced_of_some hone]
    rfl
  · rw [if_neg hspecial, List.drop_succ_cons, List.drop_zero]
    cases hfound : rest.findIdx? (· == closeBrace) with
    | none => rw [readBraced_of_none hfound]
    | some n =>
      rw [readBraced_of_some hfound]
      cases n with
      | zero => rfl
      | succ n =>
        simp only
        rw [slice?_eq (Nat.le_add_left 1 (n + 1)) hopen (hclose hfound)]
        rfl

/-- ASCII bytes at the front of a text end at a boundary. -/
theorem boundary_takeWhile {p : UInt8 → Bool} {text : Bytes} (h : IsText text)
    (hp : ∀ b, p b → b.toNat < 0x80) : IsBoundary text (text.takeWhile p).length := by
  have hsplit := List.takeWhile_append_dropWhile (p := p) (l := text)
  obtain hnil | ⟨front, last, hfront⟩ := (text.takeWhile p).eq_nil_or_concat
  · rw [hnil]
    exact h.boundary_zero
  · have hlast : p last = true := List.mem_takeWhile_imp (l := text) (by rw [hfront]; simp)
    have hbyte : text[front.length]? = some last := by
      rw [← hsplit, hfront]
      simp
    rw [hfront, List.length_concat]
    exact (h.boundary_ascii hbyte (hp last hlast)).2

/-- **A name is taken between boundaries**, and it is the one that is read. -/
theorem nameAt?_eq {rest : Bytes} (h : IsText rest) (hne : rest ≠ []) :
    nameAt? rest = some (readName rest) := by
  obtain ⟨b, rest, rfl⟩ := List.exists_cons_of_ne_nil hne
  rw [nameAt?, readName]
  split_ifs with hbrace hspecial
  · subst hbrace
    exact bracedAt?_eq h
  · have hone : IsBoundary (b :: rest) 1 :=
      (h.boundary_ascii (i := 0) rfl (lt_of_isSpecial b hspecial)).2
    rw [slice?_eq (Nat.zero_le 1) h.boundary_zero hone]
    rfl
  · simp only [List.isEmpty_iff, ← List.length_eq_zero_iff]
    split_ifs with hzero
    · rfl
    · rw [slice?_eq (Nat.zero_le _) h.boundary_zero (boundary_takeWhile h lt_of_isNameByte)]
      have htake := List.prefix_iff_eq_take.mp (List.takeWhile_prefix (l := b :: rest) isNameByte)
      simp only [List.extract_eq_take_drop, List.drop_zero, Nat.sub_zero, ← htake, Option.map_some]

section

variable {rest name : Bytes} {r : Reading} (hname : r.name = some name)

include hname

theorem exists_slice_of_map {start stop width : Nat}
    (h : (slice? rest start stop).map (fun part => (⟨some part, width⟩ : Reading)) = some r) :
    ∃ start stop, slice? rest start stop = some name := by
  obtain ⟨part, hpart, rfl⟩ := Option.map_eq_some_iff.mp h
  obtain rfl : part = name := Option.some.inj hname
  exact ⟨start, stop, hpart⟩

theorem ne_of_nameless {width : Nat} : some ⟨none, width⟩ ≠ some r := by
  rintro ⟨⟩
  exact Option.some_ne_none name hname.symm

theorem exists_slice_of_bracedAt? (h : bracedAt? rest = some r) :
    ∃ start stop, slice? rest start stop = some name := by
  unfold bracedAt? at h
  by_cases hspecial : rest[1]?.any isSpecial ∧ rest[2]? = some closeBrace
  · rw [if_pos hspecial] at h
    exact exists_slice_of_map hname h
  · rw [if_neg hspecial] at h
    cases hfound : (rest.drop 1).findIdx? (· == closeBrace) with
    | none =>
      rw [hfound] at h
      exact absurd h (ne_of_nameless hname)
    | some n =>
      rw [hfound] at h
      cases n with
      | zero => exact absurd h (ne_of_nameless hname)
      | succ n => exact exists_slice_of_map hname h

/-- **A name is a part of what it is read from.** -/
theorem exists_slice_of_nameAt? (h : nameAt? rest = some r) :
    ∃ start stop, slice? rest start stop = some name := by
  cases rest with
  | nil => cases h
  | cons b rest =>
    rw [nameAt?] at h
    split_ifs at h with hbrace hspecial
    · exact exists_slice_of_bracedAt? hname h
    · exact exists_slice_of_map hname h
    · simp only at h
      split_ifs at h with hzero
      · exact absurd h (ne_of_nameless hname)
      · exact exists_slice_of_map hname h

end

/-- What is read of a text ends at a boundary. -/
theorem boundary_readName {rest : Bytes} (h : IsText rest) :
    IsBoundary rest (readName rest).width := by
  obtain ⟨cs, rfl⟩ := h
  obtain ⟨after, hafter, hfits⟩ := Form.fits_read cs
  rw [hafter, readName_of_fits hfits]
  exact Utf8.isBoundary_behind _ after

/-! ## An expansion by positions -/

/-- Where an expansion stands. -/
inductive Cursor where
  /-- At a position. What stands from `start` on is not written yet. -/
  | reading (start pos : Nat) (out : Bytes)
  /-- Before the answer for a name. It is written, and reading goes on at `pos`. -/
  | asking (name : Bytes) (pos : Nat) (out : Bytes)
  /-- At the end. -/
  | ended (out : Bytes)
  /-- A part of the text was not there, or would have been cut inside a character. -/
  | fault
  deriving DecidableEq

/-- Where an expansion stands once it has read what follows a `$`. -/
def Reading.next (r : Reading) (pos : Nat) (out : Bytes) : Cursor :=
  match r.name with
  | some name => .asking name pos out
  | none => .reading pos pos (if r.width = 0 then out ++ [dollar] else out)

namespace Cursor

/-- One step of an expansion. Nothing is done while an answer is awaited. -/
def step (text : Bytes) : Cursor → Cursor
  | reading start pos out =>
    if h : pos < text.length then
      if text[pos] ≠ dollar ∨ text.length ≤ pos + 1 then reading start (pos + 1) out
      else match slice? text start pos, (slice? text (pos + 1) text.length).bind nameAt? with
        | some literal, some r => r.next (pos + 1 + r.width) (out ++ literal)
        | _, _ => fault
    else match slice? text start text.length with
      | some literal => ended (out ++ literal)
      | none => fault
  | asking name pos out => asking name pos out
  | ended out => ended out
  | fault => fault

/-- An expansion goes on by a step, or by an answer if it waits for one. -/
inductive Goes (text : Bytes) : Cursor → Cursor → Prop
  | step (w : Cursor) : Goes text w (step text w)
  | answer {name value : Bytes} {pos : Nat} {out : Bytes} (h : IsText value) :
      Goes text (.asking name pos out) (.reading pos pos (out ++ value))

/-- Where an expansion can come to, whatever the answers are. -/
def Reached (text : Bytes) : Cursor → Prop :=
  Relation.ReflTransGen (Goes text) (.reading 0 0 [])

/-- **Where an expansion stands**: at a position in the text. What is not written yet begins at a
boundary. -/
inductive InBounds (text : Bytes) : Cursor → Prop
  | reading {start pos : Nat} {out : Bytes} (hstart : IsBoundary text start) (hle : start ≤ pos)
      (hpos : pos ≤ text.length) (hout : IsText out) : InBounds text (.reading start pos out)
  | asking {name : Bytes} {pos : Nat} {out : Bytes} (hname : IsText name)
      (hpos : IsBoundary text pos) (hout : IsText out) : InBounds text (.asking name pos out)
  | ended {out : Bytes} (hout : IsText out) : InBounds text (.ended out)

/-- What is taken of a text at a `$` that something follows: what stands before it from `start` on,
what stands behind it, and what is read of that. The name is a part of what stands behind, and what
is read ends at a boundary there. -/
structure Taken (text : Bytes) (start pos : Nat) (before behind : Bytes) (r : Reading) : Prop where
  before_eq : slice? text start pos = some before
  behind_eq : slice? text (pos + 1) text.length = some behind
  ne_nil : behind ≠ []
  reading : nameAt? behind = some r
  name_eq : ∀ name ∈ r.name, ∃ first last, slice? behind first last = some name
  width : IsBoundary behind r.width

/-- **A `$` stands between two boundaries**, so a text is cut there as it may be. -/
theorem taken_of_dollar {text : Bytes} (h : IsText text) {start pos : Nat}
    (hstart : IsBoundary text start)
    (hle : start ≤ pos) (hmore : pos + 1 < text.length) (hdollar : text[pos]? = some dollar) :
    Taken text start pos (text.extract start pos) (text.drop (pos + 1))
      (readName (text.drop (pos + 1))) := by
  obtain ⟨hhere, hafter⟩ := h.boundary_ascii hdollar (by decide)
  have hbehind : IsText (text.drop (pos + 1)) := (hafter.isText h).2
  have hne : text.drop (pos + 1) ≠ [] := fun hnil => by
    have := List.drop_eq_nil_iff.mp hnil
    omega
  have hreading := nameAt?_eq hbehind hne
  exact ⟨slice?_eq hle hstart hhere, slice?_rest hafter, hne, hreading,
    fun name hname => exists_slice_of_nameAt? hname hreading, boundary_readName hbehind⟩

/-- The number of steps that are left at most, answers counted. -/
def left (text : Bytes) : Cursor → Nat
  | reading _ pos _ => 2 * (text.length - pos) + 1
  | asking _ pos _ => 2 * (text.length - pos) + 2
  | ended _ => 0
  | fault => 0

/-! ## One step -/

theorem extract_succ {text : Bytes} {start pos : Nat} (hle : start ≤ pos)
    (hlt : pos < text.length) :
    text.extract start (pos + 1) = text.extract start pos ++ [text[pos]] := by
  simp only [List.extract_eq_take_drop]
  rw [Nat.succ_sub hle, List.take_add_one, List.getElem?_drop, Nat.add_sub_cancel' hle,
    List.getElem?_eq_getElem hlt]
  rfl

theorem extract_self (text : Bytes) (pos : Nat) : text.extract pos pos = [] := by
  simp only [List.extract_eq_take_drop, Nat.sub_self, List.take_zero]

theorem inBounds_next {text : Bytes} {r : Reading} {pos : Nat} {out : Bytes}
    (hname : ∀ name ∈ r.name, IsText name)
    (hpos : IsBoundary text pos) (hout : IsText out) : InBounds text (r.next pos out) := by
  have hdollar : IsText [dollar] := ⟨['$'], rfl⟩
  unfold Reading.next
  cases hr : r.name with
  | some name => exact .asking (hname name hr) hpos hout
  | none =>
    refine .reading hpos (Nat.le_refl pos) hpos.1 ?_
    split_ifs
    · exact hout.append hdollar
    · exact hout

theorem left_next_le (text : Bytes) (r : Reading) (pos : Nat) (out : Bytes) :
    left text (r.next pos out) ≤ 2 * (text.length - pos) + 2 := by
  unfold Reading.next
  cases r.name with
  | some name => exact Nat.le_refl _
  | none => exact Nat.le_succ _

section

variable {text : Bytes} (htext : IsText text)

include htext

/-- **One step of an expansion that reads.** It goes on by a byte that begins no reference, or
behind a `$` with what it begins, or it has come to the end. -/
theorem step_cases {start pos : Nat} {out : Bytes} (h : InBounds text (.reading start pos out)) :
    (∃ hlt : pos < text.length, (text[pos] ≠ dollar ∨ text.length ≤ pos + 1) ∧
      step text (.reading start pos out) = .reading start (pos + 1) out) ∨
    (text[pos]? = some dollar ∧ pos + 1 < text.length ∧ step text (.reading start pos out) =
      (readName (text.drop (pos + 1))).next (pos + 1 + (readName (text.drop (pos + 1))).width)
        (out ++ text.extract start pos)) ∨
    (pos = text.length ∧
      step text (.reading start pos out) = .ended (out ++ text.extract start pos)) := by
  cases h with
  | reading hstart hle hpos hout =>
  by_cases hlt : pos < text.length
  · by_cases hskip : text[pos] ≠ dollar ∨ text.length ≤ pos + 1
    · exact Or.inl ⟨hlt, hskip, by rw [step, dif_pos hlt, if_pos hskip]⟩
    · obtain ⟨hdollar, hmore⟩ := not_or.mp hskip
      have hbyte : text[pos]? = some dollar := by
        rw [List.getElem?_eq_getElem hlt, not_not.mp hdollar]
      have htaken := taken_of_dollar htext hstart hle (Nat.lt_of_not_le hmore) hbyte
      refine Or.inr (Or.inl ⟨hbyte, Nat.lt_of_not_le hmore, ?_⟩)
      rw [step, dif_pos hlt, if_neg hskip, htaken.before_eq, htaken.behind_eq, Option.bind_some,
        htaken.reading]
  · obtain rfl : pos = text.length := Nat.le_antisymm hpos (Nat.le_of_not_lt hlt)
    refine Or.inr (Or.inr ⟨rfl, ?_⟩)
    rw [step, dif_neg hlt, slice?_eq hle hstart (boundary_length text)]

theorem inBounds_step {w : Cursor} (h : InBounds text w) : InBounds text (step text w) := by
  cases w with
  | reading start pos out =>
    have hcases := step_cases htext h
    cases h with
    | reading hstart hle hpos hout =>
    obtain ⟨hlt, -, heq⟩ | ⟨hdollar, hmore, heq⟩ | ⟨rfl, heq⟩ := hcases
    · rw [heq]
      exact .reading hstart (by omega) hlt hout
    · have htaken := taken_of_dollar htext hstart hle hmore hdollar
      have hname : ∀ name ∈ (readName (text.drop (pos + 1))).name, IsText name :=
        fun name hname => by
        obtain ⟨first, last, hpart⟩ := htaken.name_eq name hname
        exact (htext.slice htaken.behind_eq).slice hpart
      rw [heq]
      exact inBounds_next hname ((isBoundary_drop (Nat.le_of_lt hmore) _).mp htaken.width)
        (hout.append (htext.slice htaken.before_eq))
    · rw [heq]
      exact .ended (hout.append (htext.slice (slice?_eq hle hstart (boundary_length text))))
  | asking name pos out => exact h
  | ended out => exact h
  | fault => cases h

theorem left_step_lt {start pos : Nat} {out : Bytes} (h : InBounds text (.reading start pos out)) :
    left text (step text (.reading start pos out)) < left text (.reading start pos out) := by
  have hleft : left text (.reading start pos out) = 2 * (text.length - pos) + 1 := rfl
  obtain ⟨hlt, -, heq⟩ | ⟨-, hmore, heq⟩ | ⟨rfl, heq⟩ := step_cases htext h
  · rw [heq, hleft, left]
    omega
  · have hle := left_next_le text (readName (text.drop (pos + 1)))
      (pos + 1 + (readName (text.drop (pos + 1))).width) (out ++ text.extract start pos)
    rw [heq, hleft]
    omega
  · rw [heq]
    exact Nat.succ_pos _

/-- **An expansion stays in bounds**, whatever the answers are. -/
theorem inBounds_of_reached {w : Cursor} (h : Reached text w) : InBounds text w := by
  induction h with
  | refl => exact .reading htext.boundary_zero (Nat.le_refl 0) (Nat.zero_le _) ⟨[], rfl⟩
  | tail _ hgoes ih =>
    cases hgoes with
    | step w => exact inBounds_step htext ih
    | answer hvalue =>
      cases ih with
      | asking hname hpos hout => exact .reading hpos (Nat.le_refl _) hpos.1 (hout.append hvalue)

end

/-! ## A whole expansion -/

section

variable {m : Type → Type u} [Monad m] (text : Bytes) (mapping : Bytes → m Bytes)

/-- One step of an expansion, where a mapping answers. -/
def stepM : Cursor → m Cursor
  | reading start pos out => pure (step text (.reading start pos out))
  | asking name pos out => mapping name >>= fun value => pure (.reading pos pos (out ++ value))
  | ended out => pure (.ended out)
  | fault => pure .fault

/-- Some steps of an expansion, where a mapping answers. -/
def runM : Nat → Cursor → m Cursor
  | 0, w => pure w
  | k + 1, w => stepM text mapping w >>= runM k

/-- One step, where the cursor carries the proof that an expansion can come to it. -/
def stepReached (mapping : String → m String) : {w // Reached text w} → m {w // Reached text w}
  | ⟨.reading start pos out, h⟩ => pure ⟨step text (.reading start pos out), h.tail (.step _)⟩
  | ⟨.asking name pos out, h⟩ => mapping (Utf8.decodeLossy name) >>= fun value =>
    pure ⟨.reading pos pos (out ++ Utf8.encode value), h.tail (.answer (Utf8.isText_encode value))⟩
  | ⟨.ended out, h⟩ => pure ⟨.ended out, h⟩
  | ⟨.fault, h⟩ => pure ⟨.fault, h⟩

/-- Some steps, where the cursor carries the proof that an expansion can come to it. -/
def runReached (mapping : String → m String) : Nat → {w // Reached text w} → m {w // Reached text w}
  | 0, w => pure w
  | k + 1, w => stepReached text mapping w >>= runReached mapping k

/-- What an expansion will have written. -/
def result : Cursor → m Bytes
  | reading start pos out => expandFrom mapping (out ++ text.extract start pos) (text.drop pos)
  | asking name pos out =>
    mapping name >>= fun value => expandFrom mapping (out ++ value) (text.drop pos)
  | ended out => pure out
  | fault => pure []

end

section

variable {m : Type → Type u} [Monad m] {text : Bytes} {mapping : Bytes → m Bytes}

/-- A byte that begins no reference is written later. -/
theorem result_skip {start pos : Nat} (hle : start ≤ pos) (hlt : pos < text.length)
    (hskip : text[pos] ≠ dollar ∨ text.length ≤ pos + 1) (out : Bytes) :
    result text mapping (.reading start (pos + 1) out) =
      result text mapping (.reading start pos out) := by
  simp only [result]
  rw [extract_succ hle hlt, List.drop_eq_getElem_cons hlt, ← List.append_assoc]
  by_cases hdollar : text[pos] = dollar
  · -- the `$` is the last byte
    have hnil : text.drop (pos + 1) = [] :=
      List.drop_eq_nil_iff.mpr (hskip.resolve_left (not_not_intro hdollar))
    rw [hdollar, hnil, expandFrom_nil, expandFrom_last]
  · have hbyte : ∀ b ∈ [text[pos]], (b != dollar) = true := fun b hb => by
      rw [List.mem_singleton.mp hb]
      exact bne_iff_ne.mpr hdollar
    exact (expandFrom_append hbyte _ _).symm

/-- What a `$` begins is written at once, or asked for. -/
theorem result_dollar {start pos : Nat} (hdollar : text[pos]? = some dollar)
    (hmore : pos + 1 < text.length) (out : Bytes) :
    result text mapping
      ((readName (text.drop (pos + 1))).next (pos + 1 + (readName (text.drop (pos + 1))).width)
      (out ++ text.extract start pos)) = result text mapping (.reading start pos out) := by
  obtain ⟨hlt, hbyte⟩ := List.getElem?_eq_some_iff.mp hdollar
  have hdrop := List.drop_eq_getElem_cons hmore
  have hhead : (text.drop pos).dropWhile (· != dollar) =
      dollar :: text[pos + 1] :: text.drop (pos + 1 + 1) := by
    rw [List.drop_eq_getElem_cons hlt, hbyte, ← hdrop]
    rfl
  have htake : (text.drop pos).takeWhile (· != dollar) = [] := by
    rw [List.drop_eq_getElem_cons hlt, hbyte]
    rfl
  rw [result, expandFrom_of_dropWhile hhead, ← hdrop, htake, List.append_nil]
  unfold Reading.next
  simp only [List.drop_drop]
  cases (readName (text.drop (pos + 1))).name with
  | some name => rfl
  | none => simp only [result, extract_self, List.append_nil]

theorem result_step (htext : IsText text) {start pos : Nat} {out : Bytes}
    (h : InBounds text (.reading start pos out)) :
    result text mapping (step text (.reading start pos out)) =
      result text mapping (.reading start pos out) := by
  have hcases := step_cases htext h
  cases h with
  | reading hstart hle hpos hout =>
  obtain ⟨hlt, hskip, heq⟩ | ⟨hdollar, hmore, heq⟩ | ⟨rfl, heq⟩ := hcases
  · rw [heq, result_skip hle hlt hskip]
  · rw [heq, result_dollar hdollar hmore]
  · rw [heq, result, result, List.drop_length, expandFrom_nil]

end

section

variable {m : Type → Type u} [Monad m] [LawfulMonad m] {text : Bytes} (mapping : String → m String)

theorem val_stepReached (w : {w // Reached text w}) :
    Subtype.val <$> stepReached text mapping w = stepM text (inBytes mapping) w.val := by
  obtain ⟨w, h⟩ := w
  cases w with
  | reading start pos out => exact map_pure _ _
  | asking name pos out =>
    simp only [stepReached, stepM, inBytes, map_bind, map_pure, bind_map_left]
  | ended out => exact map_pure _ _
  | fault => exact map_pure _ _

/-- **A mapping leads to where an expansion can come to**, whatever else it does. -/
theorem val_runReached (k : Nat) (w : {w // Reached text w}) :
    Subtype.val <$> runReached text mapping k w = runM text (inBytes mapping) k w.val := by
  induction k generalizing w with
  | zero => exact map_pure _ _
  | succ k ih =>
    rw [runReached, runM, ← val_stepReached, bind_map_left, map_bind]
    exact congrArg (stepReached text mapping w >>= ·) (funext ih)

/-- **An expansion ends with its result**, after no more steps than were left. -/
theorem runM_eq (htext : IsText text) (k : Nat) {w : Cursor} (h : InBounds text w)
    (hk : left text w ≤ k) :
    runM text (inBytes mapping) k w = ended <$> result text (inBytes mapping) w := by
  induction k generalizing w with
  | zero =>
    cases h with
    | reading => exact absurd hk (Nat.not_succ_le_zero _)
    | asking => exact absurd hk (Nat.not_succ_le_zero _)
    | ended => rw [runM, result, map_pure]
  | succ k ih =>
    rw [runM]
    cases w with
    | reading start pos out =>
      have hlt := left_step_lt htext h
      rw [stepM, pure_bind, ih (inBounds_step htext h) (by omega), result_step htext h]
    | asking name pos out =>
      cases h with
      | asking hname hpos hout =>
      have hanswer : ∀ value : String,
          runM text (inBytes mapping) k (.reading pos pos (out ++ Utf8.encode value)) =
            ended <$> expandFrom (inBytes mapping) (out ++ Utf8.encode value) (text.drop pos) := by
        intro value
        have hbounds :=
          InBounds.reading hpos (Nat.le_refl pos) hpos.1 (hout.append (Utf8.isText_encode value))
        rw [ih hbounds (Nat.le_of_succ_le_succ hk), result, extract_self, List.append_nil]
      simp only [stepM, result, inBytes, bind_map_left, bind_assoc, pure_bind, map_bind, hanswer]
    | ended out =>
      rw [stepM, pure_bind, ih h (Nat.zero_le k)]
    | fault => cases h

/-- **The bytes that an expansion writes** are those of the text that comes out. -/
theorem expandFrom_encode (input : String) :
    expandFrom (inBytes mapping) [] (Utf8.encode input) =
      Utf8.encode <$> expandM mapping input := by
  obtain ⟨tokens, hcut, -⟩ := existsUnique_isCut input
  rw [expandM_of_isCut hcut, Utf8.encode_eq, ← hcut.text, expandFrom_tokens mapping hcut.fit,
    ← comp_map]
  refine congrArg (· <$> _) (funext fun answers => ?_)
  rw [Function.comp_apply, Utf8.encode_eq, String.toList_ofList, List.nil_append]

/-- **An expansion from the beginning** ends with the bytes of what the text expands to. -/
theorem runM_begin (input : String) :
    runM (Utf8.encode input) (inBytes mapping) (2 * (Utf8.encode input).length + 1)
      (.reading 0 0 []) =
      (fun answer => .ended (Utf8.encode answer)) <$> expandM mapping input := by
  have htext := Utf8.isText_encode input
  have hbegin : InBounds (Utf8.encode input) (.reading 0 0 []) := inBounds_of_reached htext .refl
  rw [runM_eq mapping htext (2 * (Utf8.encode input).length + 1) hbegin (Nat.le_refl _), result,
    extract_self, List.append_nil, List.drop_zero, expandFrom_encode, ← comp_map]
  rfl

end

end Cursor

open Cursor

/-- **Expansion never cuts a text inside a character.** Whatever is answered, an expansion by
positions stays in bounds and comes to no fault: what it takes of a text at a `$` and at the end
lies in the text and between two boundaries, a name is looked for where something follows, and what
is read there does not go behind the end. A mapping that may do more than answer leads nowhere else.
After no more than two steps for each byte and one more the expansion has written the bytes of a
text, and that is what the text expands to. -/
theorem expand_at_boundaries {m : Type → Type u} [Monad m] [LawfulMonad m] (input : String) :
    let text := Utf8.encode input
    (∀ w, Reached text w → InBounds text w) ∧ ¬ Reached text .fault ∧
    (∀ start pos out, Reached text (.reading start pos out) → pos + 1 < text.length →
      text[pos]? = some dollar →
      Taken text start pos (text.extract start pos) (text.drop (pos + 1))
        (readName (text.drop (pos + 1)))) ∧
    (∀ start out, Reached text (.reading start text.length out) →
      slice? text start text.length = some (text.drop start)) ∧
    (∀ (mapping : String → m String) (k : Nat), ∃ run : m {w // Reached text w},
      Subtype.val <$> run = runM text (inBytes mapping) k (.reading 0 0 [])) ∧
    (∀ mapping : String → m String,
      runM text (inBytes mapping) (2 * text.length + 1) (.reading 0 0 []) =
        (fun answer => .ended (Utf8.encode answer)) <$> expandM mapping input) ∧
    ∀ mapping : String → String,
      Id.run (runM text (inBytes fun name => pure (mapping name)) (2 * text.length + 1)
          (.reading 0 0 [])) =
        .ended (Utf8.encode (expand mapping input)) := by
  intro text
  have htext : IsText text := Utf8.isText_encode input
  refine ⟨fun w => inBounds_of_reached htext, fun h => ?_, fun start pos out h hmore hdollar => ?_,
    fun start out h => ?_, fun mapping k => ?_, fun mapping => runM_begin mapping input,
    fun mapping => ?_⟩
  · cases inBounds_of_reached htext h
  · cases inBounds_of_reached htext h with
    | reading hstart hle => exact taken_of_dollar htext hstart hle hmore hdollar
  · cases inBounds_of_reached htext h with
    | reading hstart => exact slice?_rest hstart
  · exact ⟨runReached text mapping k ⟨.reading 0 0 [], .refl⟩, val_runReached mapping k _⟩
  · rw [runM_begin, expand_eq_run]
    rfl

/-- Characters of two and three bytes before a `$`, in a name, behind a lone `$` and at the end. -/
theorem expand_at_boundaries_accented :
    let ask : String → StateM (List String) String :=
      fun name asked => ("ß" ++ name, asked ++ [name])
    let text := Utf8.encode "ü$\x7bé✓\x7d$✓$1ü"
    Reached text (.asking (Utf8.encode "é✓") 10 (Utf8.encode "ü")) ∧
    InBounds text (.asking (Utf8.encode "é✓") 10 (Utf8.encode "ü")) ∧
    (runM text (inBytes ask) (2 * text.length + 1) (.reading 0 0 [])).run [] =
      (.ended (Utf8.encode "üßé✓$✓ß1ü"), ["é✓", "1"]) := by
  intro ask text
  obtain ⟨hbounds, -, -, -, -, hrun, -⟩ :=
    expand_at_boundaries (m := StateM (List String)) "ü$\x7bé✓\x7d$✓$1ü"
  have hreached : Reached text (.asking (Utf8.encode "é✓") 10 (Utf8.encode "ü")) :=
    ((Relation.ReflTransGen.refl.tail (.step _)).tail (.step _)).tail (.step _)
  have hcut :
    IsCut "ü$\x7bé✓\x7d$✓$1ü" [.other 'ü', .dollar (.braced ['é', '✓']), .dollar .lone, .other '✓',
      .dollar (.special '1'), .other 'ü'] := by decide
  refine ⟨hreached, hbounds _ hreached, ?_⟩
  rw [hrun, expandM_of_isCut hcut]
  rfl

/-- Bytes that are no text are cut inside what would be a character. -/
example : step [dollar, 0xA9] (.reading 0 0 []) = .fault := by decide +kernel

end Stepwise.Expansion
