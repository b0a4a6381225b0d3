import Stepwise.Proofs.Secrets.Pieces
import Stepwise.Proofs.Text.Boundaries

/-!
# Redaction of a text

Secrets are texts. So in a text they stand between characters, a span begins and ends between
characters, and what is left around the spans is a text again.

* `Occurs.isText`, `IsSpan.isText`: the bytes from an occurrence or a span on are a text, and so are
  those after it.
* `Tiles.exists_text`: the pieces of a text from the middle of a character on give the end of that
  character and a text.
* `SecretSet.redact_lossless`: **a redacted text is read from exactly the bytes that redaction
  gives.**
-/

namespace Stepwise

namespace Redaction

open Utf8 (IsText IsTail encodeChars)

variable {secrets : List Bytes} {input : Bytes}

/-- **A secret stands between characters.** -/
theorem Occurs.isText (hsecrets : ∀ s ∈ secrets, IsText s) (hinput : IsText input) {o : Span}
    (h : Occurs secrets input o) : IsText (input.drop o.start) ∧ IsText (input.drop o.stop) := by
  obtain ⟨s, hs, hne, hp, hstop⟩ := h
  have hbefore := hinput.drop_before (hsecrets s hs) hne hp
  have hafter := hbefore.drop_of_prefix (hsecrets s hs) hp
  rw [List.drop_drop, ← hstop] at hafter
  exact ⟨hbefore, hafter⟩

theorem IsSpan.isText (hsecrets : ∀ s ∈ secrets, IsText s) (hinput : IsText input) {s : Span}
    (h : IsSpan secrets input s) : IsText (input.drop s.start) ∧ IsText (input.drop s.stop) := by
  obtain ⟨o, ho, hstart⟩ := h.exists_start
  obtain ⟨p, hp, hstop⟩ := h.exists_stop
  exact ⟨hstart ▸ (ho.isText hsecrets hinput).1, hstop ▸ (hp.isText hsecrets hinput).2⟩

theorem isText_shown_hidden (input : Bytes) (s : Span) :
    IsText (Piece.shown input (.hidden s)) := by
  have hmarker : IsText marker := Utf8.isText_encode markerText
  have hnewline : IsText [newline] := Utf8.isText_encode "\n"
  refine hmarker.append ?_
  rw [flatMap_newlines]
  induction ((s.bytes input).dropLast.count newline) with
  | zero => exact ⟨[], rfl⟩
  | succ n ih =>
    rw [List.replicate_succ, List.flatten_cons]
    exact (hnewline.append hmarker).append ih

/-- **The pieces of a text.** They may begin inside a character; no span begins there, so the rest
of the character is kept. -/
theorem Tiles.exists_text (hsecrets : ∀ s ∈ secrets, IsText s) (hinput : IsText input) {i : Nat}
    {ps : List Piece} (h : Tiles secrets input i ps) : ∀ {tail : Bytes} {cs : List Char},
      (∀ b ∈ tail, IsTail b) → input.drop i = tail ++ encodeChars cs →
      ∃ ds, ps.flatMap (Piece.shown input) = tail ++ encodeChars ds := by
  induction h with
  | done =>
    intro tail cs _ hdrop
    rw [List.drop_length, eq_comm, List.append_eq_nil_iff] at hdrop
    exact ⟨[], by rw [hdrop.1]; rfl⟩
  | @keep i ps hlt _ _ ih =>
    intro tail cs htail hdrop
    obtain ⟨b, hb, hbytes⟩ := exists_drop_cons hlt
    rw [List.flatMap_cons, Piece.shown, hb, Option.toList_some, List.singleton_append]
    rw [hbytes] at hdrop
    cases tail with
    | cons t tail =>
      rw [List.cons_append, List.cons.injEq] at hdrop
      obtain ⟨ds, hds⟩ := ih (fun b hb => htail b (List.mem_cons_of_mem t hb)) hdrop.2
      exact ⟨ds, by rw [hds, hdrop.1, List.cons_append]⟩
    | nil =>
      cases cs with
      | nil => exact absurd hdrop (List.cons_ne_nil b _)
      | cons c cs =>
        obtain ⟨b', bs, hchar, -, hbs⟩ := Utf8.exists_encodeChar c
        rw [List.nil_append, Utf8.encodeChars_cons, hchar, List.cons_append,
          List.cons.injEq] at hdrop
        obtain ⟨ds, hds⟩ := ih hbs hdrop.2
        refine ⟨c :: ds, ?_⟩
        rw [hds, hdrop.1, List.nil_append, Utf8.encodeChars_cons, hchar, List.cons_append]
  | @hide s ps hs _ ih =>
    intro tail cs htail hdrop
    obtain ⟨hstart, es, hstop⟩ := hs.isText hsecrets hinput
    obtain rfl : tail = [] := by
      cases tail with
      | nil => rfl
      | cons t tail =>
        rw [hdrop, List.cons_append] at hstart
        exact absurd (htail t List.mem_cons_self) hstart.not_isTail
    obtain ⟨ds, hds⟩ := ih (fun b hb => absurd hb List.not_mem_nil) hstop
    obtain ⟨ms, hms⟩ := isText_shown_hidden input s
    refine ⟨ms ++ ds, ?_⟩
    rw [List.flatMap_cons, hms, hds, Utf8.encodeChars_append, List.nil_append, List.nil_append]

end Redaction

namespace SecretSet

open Utf8 (IsText)

/-- The bytes of a redacted text are a text. -/
theorem isText_redactBytes (set : SecretSet) {input : Bytes} (h : IsText input) :
    IsText (set.redactBytes input) := by
  have hsecrets : ∀ s ∈ set.bytes, IsText s := by
    intro s hs
    obtain ⟨value, -, rfl⟩ := List.mem_map.mp hs
    exact Utf8.isText_encode value
  obtain ⟨ps, htiles, hout⟩ := Redaction.exists_tiles set.bytes input
  obtain ⟨cs, hcs⟩ := h
  have hnil : ∀ b ∈ ([] : Bytes), Utf8.IsTail b := fun b hb => absurd hb List.not_mem_nil
  obtain ⟨ds, hds⟩ := htiles.exists_text hsecrets ⟨cs, hcs⟩ hnil hcs
  exact ⟨ds, hout.trans hds⟩

/-- The bytes of a redacted text are the redacted bytes of the text. -/
theorem encode_redact (set : SecretSet) (text : String) :
    Utf8.encode (set.redact text) = set.redactBytes (Utf8.encode text) := by
  obtain ⟨cs, hcs⟩ := set.isText_redactBytes (Utf8.isText_encode text)
  rw [redact, hcs, Utf8.decodeLossy_encodeChars, Utf8.encode_eq, String.toList_ofList]

/-- **Redaction of a text is lossless outside the secrets.** The bytes that redaction gives for the
bytes of a text are valid UTF-8, nothing in them is read as a fault, and the redacted text is the
one with exactly these bytes. -/
theorem redact_lossless (set : SecretSet) (text : String) :
    let bytes := set.redactBytes (Utf8.encode text)
    bytes.toByteArray.IsValidUTF8 ∧ Utf8.decode? bytes = some (set.redact text) ∧
      none ∉ Utf8.units bytes ∧ Utf8.encode (set.redact text) = bytes := by
  intro bytes
  obtain ⟨cs, hcs⟩ : IsText bytes := set.isText_redactBytes (Utf8.isText_encode text)
  have hredact : set.redact text = String.ofList cs := by
    rw [redact, show set.redactBytes (Utf8.encode text) = _ from hcs, Utf8.decodeLossy_encodeChars]
  have hencode : Utf8.encode (set.redact text) = bytes := by
    rw [hredact, hcs, Utf8.encode_eq, String.toList_ofList]
  refine ⟨⟨cs, by rw [hcs]; rfl⟩, by rw [← hencode, Utf8.decode?_encode], ?_, hencode⟩
  rw [hcs, Utf8.units_encodeChars]
  simp

end SecretSet

end Stepwise
