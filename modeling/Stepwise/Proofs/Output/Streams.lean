import Stepwise.Output.Sink
import Stepwise.Proofs.Secrets.Leak

/-!
# Secrets in one of two streams

Both streams of a process end in one sink. What it hides are the secrets of the merged bytes. This
module says what that means for a secret of one of the streams.

* `Interleaves`: a byte string is put together from two others, each in its own order. The merged
  bytes are, of the bytes of the two streams (`interleaves_mergedBytes`).
* `Sink.copy_of`: what a sink forwards in all is a function of the merged bytes.
* `place`: where a byte of a stream stands in the merged bytes.
* `Together`: the bytes of a span of a stream arrived with nothing of the other stream between them.
* `Sink.copy_hides`: **a byte of a stream is shown exactly if no secret covers its place in the
  merged bytes**, and so none of a secret that arrived together. `Sink.copy_shows_parted`: one that
  did not is shown.
-/

namespace Stepwise

/-! ## Merged bytes -/

variable {stream : Stream}

theorem streamBytes_cons_of_eq {c : Chunk} (h : c.stream = stream) (cs : List Chunk) :
    streamBytes stream (c :: cs) = c.bytes ++ streamBytes stream cs := by
  simp [streamBytes, h]

theorem streamBytes_cons_of_ne {c : Chunk} (h : c.stream ≠ stream) (cs : List Chunk) :
    streamBytes stream (c :: cs) = streamBytes stream cs := by
  simp [streamBytes, h]

theorem streamBytes_append (stream : Stream) (xs ys : List Chunk) :
    streamBytes stream (xs ++ ys) = streamBytes stream xs ++ streamBytes stream ys := by
  simp [streamBytes]

theorem mergedBytes_cons (c : Chunk) (cs : List Chunk) :
    mergedBytes (c :: cs) = c.bytes ++ mergedBytes cs :=
  List.flatMap_cons

theorem mergedBytes_append (xs ys : List Chunk) :
    mergedBytes (xs ++ ys) = mergedBytes xs ++ mergedBytes ys :=
  List.flatMap_append

/-- The third byte string is put together from the other two: it holds each of their bytes once, and
those of either in their own order. -/
inductive Interleaves : Bytes → Bytes → Bytes → Prop where
  | nil : Interleaves [] [] []
  | left {b : UInt8} {x y z : Bytes} : Interleaves x y z → Interleaves (b :: x) y (b :: z)
  | right {b : UInt8} {x y z : Bytes} : Interleaves x y z → Interleaves x (b :: y) (b :: z)

namespace Interleaves

variable {x y z : Bytes}

theorem append_left (h : Interleaves x y z) : ∀ bytes, Interleaves (bytes ++ x) y (bytes ++ z)
  | [] => h
  | _ :: bytes => .left (h.append_left bytes)

theorem append_right (h : Interleaves x y z) : ∀ bytes, Interleaves x (bytes ++ y) (bytes ++ z)
  | [] => h
  | _ :: bytes => .right (h.append_right bytes)

end Interleaves

/-- **What arrives is put together from what arrives on the two streams.** -/
theorem interleaves_mergedBytes (chunks : List Chunk) :
    Interleaves (streamBytes .output chunks) (streamBytes .error chunks) (mergedBytes chunks) := by
  induction chunks with
  | nil => exact .nil
  | cons c cs ih =>
    rw [mergedBytes_cons]
    cases hc : c.stream with
    | output =>
      rw [streamBytes_cons_of_eq hc, streamBytes_cons_of_ne (by simp [hc])]
      exact ih.append_left c.bytes
    | error =>
      rw [streamBytes_cons_of_ne (by simp [hc]), streamBytes_cons_of_eq hc]
      exact ih.append_right c.bytes

/-! ## What a sink forwards -/

/-- A byte string with the given secrets hidden, if there are any to hide. -/
def hidden : Option SecretSet → Bytes → Bytes
  | none, bytes => bytes
  | some secrets, bytes => secrets.redactBytes bytes

namespace Sink

theorem copy_plain (chunks : List Chunk) : plain.copy chunks = mergedBytes chunks := by
  induction chunks with
  | nil => rfl
  | cons c cs ih => exact congrArg (c.bytes ++ ·) ih

/-- A redacting sink forwards what its redactor does for a write of each chunk and the close. -/
theorem copy_redacting (r : Redactor) (chunks : List Chunk) :
    (redacting r).copy chunks =
      (r.run (chunks.map fun c => .write c.bytes)).2 ++
        (r.run (chunks.map fun c => .write c.bytes)).1.close.2 := by
  induction chunks generalizing r with
  | nil => rfl
  | cons c cs ih =>
    rw [copy, write, ih, List.map_cons, Redactor.run, List.append_assoc]
    rfl

/-- **What a sink forwards does not depend on how the merged bytes were cut**: it is those bytes
with the secrets hidden. -/
theorem copy_of (secrets : Option SecretSet) (chunks : List Chunk) :
    (of secrets).copy chunks = hidden secrets (mergedBytes chunks) := by
  cases secrets with
  | none => exact copy_plain chunks
  | some set =>
    have hclose : Redactor.Call.close ∉ chunks.map fun c => .write c.bytes := by simp
    have hbytes : (chunks.map fun c => Redactor.Call.write c.bytes).flatMap Redactor.Call.bytes =
        mergedBytes chunks := by
      rw [mergedBytes, List.flatMap_map]
      rfl
    rw [of, copy_redacting, (Redactor.run_of_close_notMem set hclose).2, hbytes, hidden]

end Sink

/-! ## Places -/

/-- Where a byte of a stream, counted in that stream, stands in the merged bytes. -/
def place (stream : Stream) : List Chunk → Nat → Nat
  | [], i => i
  | c :: cs, i =>
    if c.stream = stream then
      if i < c.bytes.length then i else c.bytes.length + place stream cs (i - c.bytes.length)
    else c.bytes.length + place stream cs i

section Place

variable {c : Chunk} {cs : List Chunk} {i j : Nat}

theorem place_cons_of_lt (h : c.stream = stream) (hi : i < c.bytes.length) :
    place stream (c :: cs) i = i := by
  rw [place, if_pos h, if_pos hi]

theorem place_cons_of_le (h : c.stream = stream) (hi : c.bytes.length ≤ i) :
    place stream (c :: cs) i = c.bytes.length + place stream cs (i - c.bytes.length) := by
  rw [place, if_pos h, if_neg (Nat.not_lt.mpr hi)]

theorem place_cons_of_ne (h : c.stream ≠ stream) :
    place stream (c :: cs) i = c.bytes.length + place stream cs i := by
  rw [place, if_neg h]

/-- The byte at a place is that of the stream. -/
theorem getElem?_place (chunks : List Chunk) {i : Nat}
    (hi : i < (streamBytes stream chunks).length) :
    (mergedBytes chunks)[place stream chunks i]? = (streamBytes stream chunks)[i]? := by
  induction chunks generalizing i with
  | nil => exact absurd hi (Nat.not_lt_zero _)
  | cons c cs ih =>
    rw [mergedBytes_cons]
    by_cases hc : c.stream = stream
    · rw [streamBytes_cons_of_eq hc] at hi ⊢
      rcases Nat.lt_or_ge i c.bytes.length with hlt | hge
      · rw [place_cons_of_lt hc hlt, List.getElem?_append_left hlt, List.getElem?_append_left hlt]
      · rw [List.length_append] at hi
        rw [place_cons_of_le hc hge, List.getElem?_append_right (Nat.le_add_right _ _),
          Nat.add_sub_cancel_left, List.getElem?_append_right hge, ih (by omega)]
    · rw [streamBytes_cons_of_ne hc] at hi ⊢
      rw [place_cons_of_ne hc, List.getElem?_append_right (Nat.le_add_right _ _),
        Nat.add_sub_cancel_left, ih hi]

/-- The bytes of a stream keep their order. -/
theorem place_lt_place (chunks : List Chunk) (hij : i < j) :
    place stream chunks i < place stream chunks j := by
  induction chunks generalizing i j with
  | nil => exact hij
  | cons c cs ih =>
    by_cases hc : c.stream = stream
    · rcases Nat.lt_or_ge j c.bytes.length with hj | hj
      · rwa [place_cons_of_lt hc hj, place_cons_of_lt hc (Nat.lt_trans hij hj)]
      · rw [place_cons_of_le hc hj]
        rcases Nat.lt_or_ge i c.bytes.length with hi | hi
        · rw [place_cons_of_lt hc hi]
          exact Nat.lt_of_lt_of_le hi (Nat.le_add_right _ _)
        · rw [place_cons_of_le hc hi]
          exact Nat.add_lt_add_left (ih (by omega)) _
    · rw [place_cons_of_ne hc, place_cons_of_ne hc]
      exact Nat.add_lt_add_left (ih hij) _

/-- The place of a byte that does not stand in the first chunks. -/
theorem place_append (before after : List Chunk) (hi : (streamBytes stream before).length ≤ i) :
    place stream (before ++ after) i =
      (mergedBytes before).length +
        place stream after (i - (streamBytes stream before).length) := by
  induction before generalizing i with
  | nil => exact (Nat.zero_add _).symm
  | cons c cs ih =>
    rw [List.cons_append, mergedBytes_cons, List.length_append, Nat.add_assoc]
    by_cases hc : c.stream = stream
    · rw [streamBytes_cons_of_eq hc, List.length_append] at hi ⊢
      rw [place_cons_of_le hc (by omega), ih (by omega), Nat.sub_sub]
    · rw [streamBytes_cons_of_ne hc] at hi ⊢
      rw [place_cons_of_ne hc, ih hi]

end Place

/-! ## Secrets that arrive together -/

/-- Chunks with nothing of the other stream. -/
def Alone (stream : Stream) (chunks : List Chunk) : Prop :=
  ∀ c ∈ chunks, c.stream = stream ∨ c.bytes = []

namespace Alone

variable {chunks : List Chunk}

theorem tail {c : Chunk} (h : Alone stream (c :: chunks)) : Alone stream chunks :=
  fun d hd => h d (List.mem_cons_of_mem c hd)

/-- The merged bytes of one stream alone are its own. -/
theorem mergedBytes_eq (h : Alone stream chunks) :
    mergedBytes chunks = streamBytes stream chunks := by
  induction chunks with
  | nil => rfl
  | cons c cs ih =>
    rw [mergedBytes_cons, ih h.tail]
    by_cases hc : c.stream = stream
    · rw [streamBytes_cons_of_eq hc]
    · rw [streamBytes_cons_of_ne hc, (h c List.mem_cons_self).resolve_left hc, List.nil_append]

/-- A byte of one stream alone keeps its position, whatever comes after it. -/
theorem place_append_eq (h : Alone stream chunks) (after : List Chunk) {i : Nat}
    (hi : i < (streamBytes stream chunks).length) : place stream (chunks ++ after) i = i := by
  induction chunks generalizing i with
  | nil => exact absurd hi (Nat.not_lt_zero _)
  | cons c cs ih =>
    rw [List.cons_append]
    by_cases hc : c.stream = stream
    · rw [streamBytes_cons_of_eq hc, List.length_append] at hi
      rcases Nat.lt_or_ge i c.bytes.length with hlt | hge
      · exact place_cons_of_lt hc hlt
      · rw [place_cons_of_le hc hge, ih h.tail (by omega), Nat.add_sub_cancel' hge]
    · rw [streamBytes_cons_of_ne hc] at hi
      rw [place_cons_of_ne hc, ih h.tail hi, (h c List.mem_cons_self).resolve_left hc,
        List.length_nil, Nat.zero_add]

end Alone

open Redaction (Span Piece Occurs Covered)

/-- The bytes of a span of a stream arrived with no byte of the other stream between them. -/
def Together (stream : Stream) (chunks : List Chunk) (o : Span) : Prop :=
  ∃ before middle after, chunks = before ++ middle ++ after ∧ Alone stream middle ∧
    (streamBytes stream before).length ≤ o.start ∧
    o.stop ≤ (streamBytes stream (before ++ middle)).length

/-- **A secret of one stream that arrived together is a secret of the merged bytes.** -/
theorem Together.covered {secrets : List Bytes} {chunks : List Chunk} {o : Span}
    (h : Together stream chunks o) (ho : Occurs secrets (streamBytes stream chunks) o) {i : Nat}
    (hi : o.Holds i) : Covered secrets (mergedBytes chunks) (place stream chunks i) := by
  obtain ⟨before, middle, after, rfl, halone, hstart, hstop⟩ := h
  obtain ⟨s, hs, hne, hbegin, hlength⟩ := ho
  obtain ⟨hi₁, hi₂⟩ := hi
  rw [streamBytes_append, List.length_append] at hstop
  generalize hskip : (streamBytes stream before).length = skip at hstart hstop
  -- the secret stands in the middle chunks, which are one stream alone
  have hmiddle : s <+: (mergedBytes middle).drop (o.start - skip) := by
    rw [List.append_assoc, streamBytes_append, streamBytes_append, List.drop_append, hskip,
      List.drop_eq_nil_of_le (by omega), List.nil_append,
      List.drop_append_of_le_length (by omega)] at hbegin
    rw [halone.mergedBytes_eq]
    exact List.prefix_of_prefix_length_le hbegin (List.prefix_append _ _)
      (by rw [List.length_drop]; omega)
  have hmerged : s <+: (mergedBytes (before ++ middle ++ after)).drop
      ((mergedBytes before).length + (o.start - skip)) := by
    rw [List.append_assoc, mergedBytes_append, mergedBytes_append, ← List.drop_drop, List.drop_left,
      List.drop_append_of_le_length (by rw [halone.mergedBytes_eq]; omega)]
    exact hmiddle.trans (List.prefix_append _ _)
  have hplace : place stream (before ++ middle ++ after) i =
      (mergedBytes before).length + (i - skip) := by
    rw [List.append_assoc, place_append before _ (by omega), hskip,
      halone.place_append_eq after (by omega)]
  let start := (mergedBytes before).length + (o.start - skip)
  have hoccurs :
      Occurs secrets (mergedBytes (before ++ middle ++ after)) ⟨start, start + s.length⟩ :=
    ⟨s, hs, hne, hmerged, rfl⟩
  rw [hplace]
  refine hoccurs.covered ⟨?_, ?_⟩
  · exact Nat.add_le_add_left (Nat.sub_le_sub_right hi₁ skip) _
  · simp only [start]
    omega

/-- **What a sink shows of a stream.** All that it forwards is a row of pieces of the merged bytes,
in their order. A byte of a stream is shown exactly if no secret of the merged bytes covers its
place. So no byte of a secret of that stream is shown, however it was cut, if nothing of the other
stream arrived within it. -/
theorem Sink.copy_hides (set : SecretSet) (chunks : List Chunk) :
    ∃ pieces : List Piece,
      (Sink.of (some set)).copy chunks = pieces.flatMap (Piece.shown (mergedBytes chunks)) ∧
      pieces.Pairwise (fun p q => p.span.stop ≤ q.span.start) ∧
      ∀ stream i, i < (streamBytes stream chunks).length →
        (mergedBytes chunks)[place stream chunks i]? = (streamBytes stream chunks)[i]? ∧
        (∀ j < i, place stream chunks j < place stream chunks i) ∧
        (.kept (place stream chunks i) ∈ pieces ↔
          ¬ Covered set.bytes (mergedBytes chunks) (place stream chunks i)) ∧
        ∀ o, Occurs set.bytes (streamBytes stream chunks) o → Together stream chunks o → o.Holds i →
          .kept (place stream chunks i) ∉ pieces := by
  obtain ⟨pieces, htiles, hout⟩ := Redaction.exists_tiles set.bytes (mergedBytes chunks)
  refine ⟨pieces, (copy_of (some set) chunks).trans hout, htiles.pairwise, fun stream i hi => ?_⟩
  have hbyte := getElem?_place chunks hi
  have hlt : place stream chunks i < (mergedBytes chunks).length := by
    rw [List.getElem?_eq_getElem hi] at hbyte
    exact (List.getElem?_eq_some_iff.mp hbyte).1
  have hkept : .kept (place stream chunks i) ∈ pieces ↔
      ¬ Covered set.bytes (mergedBytes chunks) (place stream chunks i) :=
    ⟨fun h => (htiles.sound.1 _ h).2, htiles.kept_of_not_covered hlt⟩
  exact ⟨hbyte, fun j hj => place_lt_place chunks hj, hkept,
    fun o ho htogether hoi hmem => hkept.mp hmem (htogether.covered ho hoi)⟩

/-- A secret that was cut by a read, with the other stream before it and after it. -/
theorem Sink.copy_hides_cut :
    let set := SecretSet.ofList ["ABC123"]
    let chunks : List Chunk := [⟨.error, Utf8.encode "x"⟩, ⟨.output, Utf8.encode "ABC"⟩,
      ⟨.output, Utf8.encode "123"⟩, ⟨.error, Utf8.encode "y"⟩]
    Occurs set.bytes (streamBytes .output chunks) ⟨0, 6⟩ ∧ Together .output chunks ⟨0, 6⟩ ∧
      ∃ pieces : List Piece,
        (Sink.of (some set)).copy chunks = pieces.flatMap (Piece.shown (mergedBytes chunks)) ∧
        ∀ i < 6, .kept (place .output chunks i) ∉ pieces := by
  intro set chunks
  have hbytes : set.bytes = [Utf8.encode "ABC123"] := by decide +kernel
  have hoccurs : Occurs set.bytes (streamBytes .output chunks) ⟨0, 6⟩ :=
    ⟨Utf8.encode "ABC123", by simp [hbytes], by decide +kernel, ⟨[], by decide +kernel⟩,
      by decide +kernel⟩
  have htogether : Together .output chunks ⟨0, 6⟩ :=
    ⟨chunks.take 1, (chunks.drop 1).take 2, chunks.drop 3,
      rfl, by simp [Alone, chunks], by decide +kernel, by decide +kernel⟩
  have hlength : (streamBytes .output chunks).length = 6 := by decide +kernel
  obtain ⟨pieces, hout, -, hpieces⟩ := copy_hides set chunks
  refine ⟨hoccurs, htogether, pieces, hout, fun i hi => ?_⟩
  exact (hpieces .output i (hlength ▸ hi)).2.2.2 ⟨0, 6⟩ hoccurs htogether ⟨Nat.zero_le i, hi⟩

/-- **A secret with a byte of the other stream in it** is shown. -/
theorem Sink.copy_shows_parted :
    let set := SecretSet.ofList ["ABC123"]
    let chunks : List Chunk := [⟨.output, Utf8.encode "ABC"⟩, ⟨.error, Utf8.encode "x"⟩,
      ⟨.output, Utf8.encode "123"⟩]
    Occurs set.bytes (streamBytes .output chunks) ⟨0, 6⟩ ∧
      (Sink.of (some set)).copy chunks = Utf8.encode "ABCx123" := by
  intro set chunks
  have hbytes : set.bytes = [Utf8.encode "ABC123"] := by decide +kernel
  have hmerged : mergedBytes chunks = Utf8.encode "ABCx123" := by decide +kernel
  refine ⟨⟨Utf8.encode "ABC123", by simp [hbytes], by decide +kernel, ⟨[], by decide +kernel⟩,
    by decide +kernel⟩, ?_⟩
  rw [copy_of, hmerged, hidden, SecretSet.redactBytes, hbytes]
  refine Redaction.redact_of_not_infix fun s hs _ => ?_
  obtain rfl := List.mem_singleton.mp hs
  decide +kernel

end Stepwise
