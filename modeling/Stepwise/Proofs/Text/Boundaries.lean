import Stepwise.Proofs.Text.Utf8

/-!
# Where characters begin

A byte that begins a character is none that goes on one. So where a text is found among the bytes of
another one, it stands between two characters, and the bytes around it are texts of their own.

* `IsTail`: a byte that goes on a character.
* `IsText`: some bytes are those of a text.
* `exists_drop_encodeChars`: from any byte on, the bytes of a text are the end of a character and a
  text.
* `prefix_of_encodeChars_prefix`: **a text at the front of another one's bytes is the front of its
  characters.**
* `IsText.drop_of_prefix`, `IsText.drop_before`: **what stands in a text after a text, and from a
  text on, is a text.**
* `IsBoundary`: a position that is not inside a character, by the byte there. `isBoundary_iff`:
  **some of the characters end there.**
* `IsText.boundary_ascii`: an ASCII byte stands between two boundaries.
* `slice?`: the bytes between two boundaries. `IsText.slice`: they are a text.
-/

namespace Stepwise.Utf8

/-- A byte that goes on a character. -/
def IsTail (b : UInt8) : Prop := 0x80 ≤ b.toNat ∧ b.toNat < 0xC0

/-- Some bytes are those of a text. -/
def IsText (bytes : Bytes) : Prop := ∃ cs, bytes = encodeChars cs

theorem isText_encode (text : String) : IsText (encode text) := ⟨text.toList, rfl⟩

theorem IsText.append {bytes more : Bytes} (h : IsText bytes) (h' : IsText more) :
    IsText (bytes ++ more) := by
  obtain ⟨cs, rfl⟩ := h
  obtain ⟨ds, rfl⟩ := h'
  exact ⟨cs ++ ds, (encodeChars_append cs ds).symm⟩

theorem isTail_tailByte (n : Nat) : IsTail (tailByte n) := by
  rw [IsTail, toNat_tailByte]
  omega

/-- **The first byte of a character** is the only one that does not go on a character. -/
theorem exists_encodeChar (c : Char) : ∃ b bs,
    String.utf8EncodeChar c = b :: bs ∧ ¬ IsTail b ∧ ∀ t ∈ bs, IsTail t := by
  by_cases hone : c.toNat < 0x80
  · refine ⟨_, [], encodeChar_of_ascii hone, fun h => ?_, fun t ht => absurd ht List.not_mem_nil⟩
    rw [IsTail, toNat_ofNat (by omega)] at h
    omega
  · obtain ⟨m, vs, hm, hm', hbytes⟩ := exists_tailBytes (Nat.le_of_not_lt hone)
    refine ⟨_, _, hbytes, fun h => ?_, fun t ht => ?_⟩
    · rw [IsTail, toNat_ofNat hm'] at h
      omega
    · obtain ⟨v, -, rfl⟩ := List.mem_map.mp ht
      exact isTail_tailByte v

/-- A text does not begin inside a character. -/
theorem IsText.not_isTail {b : UInt8} {rest : Bytes} (h : IsText (b :: rest)) : ¬ IsTail b := by
  obtain ⟨cs, hcs⟩ := h
  cases cs with
  | nil => exact absurd hcs (List.cons_ne_nil b rest)
  | cons c cs =>
    obtain ⟨b', bs, hbytes, hnot, -⟩ := exists_encodeChar c
    rw [encodeChars_cons, hbytes, List.cons_append, List.cons.injEq] at hcs
    exact hcs.1 ▸ hnot

/-- **From any byte on**, the bytes of a text are the end of a character and a text. -/
theorem exists_drop_encodeChars (cs : List Char) (k : Nat) : ∃ tail ds,
    (encodeChars cs).drop k = tail ++ encodeChars ds ∧ ∀ t ∈ tail, IsTail t := by
  induction cs generalizing k with
  | nil => exact ⟨[], [], by simp, fun t ht => absurd ht List.not_mem_nil⟩
  | cons c cs ih =>
    obtain ⟨b, bs, hbytes, -, htails⟩ := exists_encodeChar c
    cases k with
    | zero => exact ⟨[], c :: cs, rfl, fun t ht => absurd ht List.not_mem_nil⟩
    | succ k =>
      rw [encodeChars_cons, hbytes, List.cons_append, List.drop_succ_cons]
      by_cases hk : k ≤ bs.length
      · exact ⟨bs.drop k, cs, List.drop_append_of_le_length hk,
          fun t ht => htails t (List.mem_of_mem_drop ht)⟩
      · obtain ⟨tail, ds, hdrop, htail⟩ := ih (k - bs.length)
        refine ⟨tail, ds, ?_, htail⟩
        rw [List.drop_append, List.drop_eq_nil_of_le (Nat.le_of_not_le hk), List.nil_append, hdrop]

/-- **A text at the front of another one's bytes** is the front of its characters. -/
theorem prefix_of_encodeChars_prefix {ds cs : List Char} (h : encodeChars ds <+: encodeChars cs) :
    ds <+: cs := by
  induction ds generalizing cs with
  | nil => exact List.nil_prefix
  | cons d ds ih =>
    obtain ⟨rest, hrest⟩ := h
    rw [encodeChars_cons, List.append_assoc] at hrest
    obtain ⟨b, bs, hb, hd⟩ := front_encodeChar d (encodeChars ds ++ rest)
    cases cs with
    | nil => exact absurd hrest (by simp [hb])
    | cons c cs =>
      obtain ⟨b', bs', hb', hc⟩ := front_encodeChar c (encodeChars cs)
      rw [encodeChars_cons, hb, hb', List.cons_append, List.cons_append, List.cons.injEq] at hrest
      -- both characters are read from the same bytes
      rw [hrest.1, hrest.2, hc, Prod.mk.injEq, Option.some.injEq] at hd
      obtain ⟨rfl, hafter⟩ := hd
      exact List.cons_prefix_cons.mpr ⟨rfl, ih ⟨rest, hafter.symm⟩⟩

/-- What stands in a text after a text at its front is a text. -/
theorem IsText.drop_of_prefix {bytes found : Bytes} (h : IsText bytes) (hfound : IsText found)
    (hp : found <+: bytes) : IsText (bytes.drop found.length) := by
  obtain ⟨cs, rfl⟩ := h
  obtain ⟨ds, rfl⟩ := hfound
  obtain ⟨es, rfl⟩ := prefix_of_encodeChars_prefix hp
  exact ⟨es, by rw [encodeChars_append, List.drop_left]⟩

/-- What stands in a text from a text on is a text. -/
theorem IsText.drop_before {bytes found : Bytes} {i : Nat} (h : IsText bytes)
    (hfound : IsText found)
    (hne : found ≠ []) (hp : found <+: bytes.drop i) : IsText (bytes.drop i) := by
  obtain ⟨cs, rfl⟩ := h
  obtain ⟨tail, ds, hdrop, htail⟩ := exists_drop_encodeChars cs i
  cases tail with
  | nil => exact ⟨ds, hdrop⟩
  | cons t tail =>
    obtain ⟨b, rest, rfl⟩ := List.exists_cons_of_ne_nil hne
    rw [hdrop, List.cons_append, List.cons_prefix_cons] at hp
    exact absurd (hp.1 ▸ htail t List.mem_cons_self) hfound.not_isTail

/-! ## Parts of a text -/

instance : DecidablePred IsTail :=
  fun b => inferInstanceAs (Decidable (0x80 ≤ b.toNat ∧ b.toNat < 0xC0))

/-- A position that lies in some bytes or at their end, and not inside a character: no byte that
goes on a character stands there. -/
def IsBoundary (bytes : Bytes) (i : Nat) : Prop := i ≤ bytes.length ∧ ∀ b ∈ bytes[i]?, ¬ IsTail b

instance (bytes : Bytes) (i : Nat) : Decidable (IsBoundary bytes i) :=
  decidable_of_iff (i ≤ bytes.length ∧ bytes[i]?.all (¬ IsTail ·))
    (by simp [IsBoundary, Option.all_eq_true])

/-- The byte behind some characters is the first one of those that follow. -/
theorem getElem?_behind (ds es : List Char) :
    (encodeChars (ds ++ es))[(encodeChars ds).length]? = (encodeChars es)[0]? := by
  rw [encodeChars_append, List.getElem?_append_right (Nat.le_refl _), Nat.sub_self]

theorem isBoundary_behind (ds es : List Char) :
    IsBoundary (encodeChars (ds ++ es)) (encodeChars ds).length := by
  refine ⟨by simp, fun b hb => ?_⟩
  rw [getElem?_behind] at hb
  cases hes : encodeChars es with
  | nil =>
    rw [hes] at hb
    exact absurd hb (Option.not_mem_none b)
  | cons b' rest =>
    rw [hes] at hb
    obtain rfl : b' = b := Option.some.inj hb
    exact IsText.not_isTail ⟨es, hes.symm⟩

/-- A boundary has some of the characters before it and the others behind it: all bytes of a
character but the first one go on it, and none of them is at a boundary. -/
theorem IsBoundary.exists_append {cs : List Char} {i : Nat} (h : IsBoundary (encodeChars cs) i) :
    ∃ ds es, cs = ds ++ es ∧ i = (encodeChars ds).length := by
  induction cs generalizing i with
  | nil => exact ⟨[], [], rfl, Nat.le_zero.mp h.1⟩
  | cons c cs ih =>
    obtain ⟨b, bs, hbytes, -, htails⟩ := exists_encodeChar c
    rw [encodeChars_cons, hbytes, List.cons_append] at h
    obtain ⟨hle, hnot⟩ := h
    cases i with
    | zero => exact ⟨[], c :: cs, rfl, rfl⟩
    | succ i =>
      rw [List.length_cons, Nat.add_le_add_iff_right, List.length_append] at hle
      rw [List.getElem?_cons_succ] at hnot
      by_cases hi : i < bs.length
      · rw [List.getElem?_append_left hi, List.getElem?_eq_getElem hi] at hnot
        exact absurd (htails _ (List.getElem_mem hi)) (hnot _ rfl)
      · rw [List.getElem?_append_right (Nat.le_of_not_lt hi)] at hnot
        obtain ⟨ds, es, rfl, hlength⟩ := ih ⟨by omega, hnot⟩
        refine ⟨c :: ds, es, rfl, ?_⟩
        rw [encodeChars_cons, hbytes, List.length_append, List.length_cons, ← hlength]
        omega

/-- **The boundaries of a text** are the places where some of its characters end. -/
theorem isBoundary_iff {cs : List Char} {i : Nat} :
    IsBoundary (encodeChars cs) i ↔ ∃ ds es, cs = ds ++ es ∧ i = (encodeChars ds).length := by
  refine ⟨IsBoundary.exists_append, ?_⟩
  rintro ⟨ds, es, rfl, rfl⟩
  exact isBoundary_behind ds es

theorem isBoundary_drop {bytes : Bytes} {i : Nat} (hi : i ≤ bytes.length) (k : Nat) :
    IsBoundary (bytes.drop i) k ↔ IsBoundary bytes (i + k) := by
  rw [IsBoundary, IsBoundary, List.length_drop, List.getElem?_drop]
  refine and_congr_left fun _ => ?_
  omega

theorem IsText.boundary_zero {bytes : Bytes} (h : IsText bytes) : IsBoundary bytes 0 := by
  obtain ⟨cs, rfl⟩ := h
  exact isBoundary_behind [] cs

theorem boundary_length (bytes : Bytes) : IsBoundary bytes bytes.length :=
  ⟨Nat.le_refl _, by simp⟩

/-- A boundary parts a text into two texts. -/
theorem IsBoundary.isText {bytes : Bytes} {i : Nat} (hi : IsBoundary bytes i) (h : IsText bytes) :
    IsText (bytes.take i) ∧ IsText (bytes.drop i) := by
  obtain ⟨cs, rfl⟩ := h
  obtain ⟨ds, es, rfl, rfl⟩ := hi.exists_append
  rw [encodeChars_append, List.take_left, List.drop_left]
  exact ⟨⟨ds, rfl⟩, ⟨es, rfl⟩⟩

/-- **An ASCII byte stands between two boundaries.** -/
theorem IsText.boundary_ascii {bytes : Bytes} (h : IsText bytes) {i : Nat} {b : UInt8}
    (hb : bytes[i]? = some b)
    (hascii : b.toNat < 0x80) : IsBoundary bytes i ∧ IsBoundary bytes (i + 1) := by
  have hhere : IsBoundary bytes i := by
    refine ⟨Nat.le_of_lt (List.getElem?_eq_some_iff.mp hb).1, fun b' hb' htail => ?_⟩
    obtain rfl : b = b' := Option.some.inj (hb.symm.trans hb')
    exact Nat.not_le.mpr hascii htail.1
  obtain ⟨cs, rfl⟩ := h
  obtain ⟨ds, es, rfl, rfl⟩ := hhere.exists_append
  rw [getElem?_behind] at hb
  cases es with
  | nil => exact absurd hb (Option.not_mem_none b)
  | cons c es =>
    obtain ⟨b', bs, hbytes, -, -⟩ := exists_encodeChar c
    rw [encodeChars_cons, hbytes, List.cons_append] at hb
    obtain rfl : b' = b := Option.some.inj hb
    have hmem : b' ∈ String.utf8EncodeChar c := by rw [hbytes]; exact List.mem_cons_self
    have hc : c.toNat < 0x80 := by
      rcases mem_encodeChar hmem with ⟨hlt, -⟩ | ⟨-, hle⟩
      · exact hlt
      · omega
    refine ⟨hhere, isBoundary_iff.mpr ⟨ds ++ [c], es, by simp, ?_⟩⟩
    rw [encodeChars_append, List.length_append, encodeChars_cons, encodeChar_of_ascii hc]
    rfl

/-- The bytes of a text between two positions, if both lie in it in this order and none inside a
character. -/
def slice? (text : Bytes) (start stop : Nat) : Option Bytes :=
  if start ≤ stop ∧ IsBoundary text start ∧ IsBoundary text stop then
    some (text.extract start stop)
  else none

theorem slice?_eq {text : Bytes} {start stop : Nat} (hle : start ≤ stop)
    (hstart : IsBoundary text start)
    (hstop : IsBoundary text stop) : slice? text start stop = some (text.extract start stop) :=
  if_pos ⟨hle, hstart, hstop⟩

theorem slice?_rest {text : Bytes} {start : Nat} (hstart : IsBoundary text start) :
    slice? text start text.length = some (text.drop start) := by
  have hlength : (text.drop start).length ≤ text.length - start := Nat.le_of_eq List.length_drop
  rw [slice?_eq hstart.1 hstart (boundary_length text), List.extract_eq_take_drop,
    List.take_of_length_le hlength]

/-- **A part of a text is a text.** -/
theorem IsText.slice {text part : Bytes} (h : IsText text) {start stop : Nat}
    (hpart : slice? text start stop = some part) : IsText part := by
  obtain ⟨⟨hle, hstart, hstop⟩, heq⟩ := Option.ite_none_right_eq_some.mp hpart
  have hlast : IsBoundary (text.drop start) (stop - start) := by
    rwa [isBoundary_drop hstart.1, Nat.add_sub_cancel' hle]
  rw [← Option.some.inj heq, List.extract_eq_take_drop]
  exact (hlast.isText (hstart.isText h).2).1

end Stepwise.Utf8
