import Mathlib.Tactic.SplitIfs
import Stepwise.Text.Utf8

/-!
# The bytes of a text

A character outside ASCII is written in bytes outside ASCII, so a byte string can be searched for an
ASCII character without reading its text. And what is written can be read again.

* `Utf8.mem_encodeChar`: the bytes of a character are in ASCII iff it is.
* `Utf8.takeWhile_encodeChars`: **bytes are searched as characters are.**
* `Utf8.front_encodeChar`: one character is read from its bytes.
* `Utf8.decodeLossy_encodeChars`, `decode?_encode`: **a text is read from its bytes.**
-/

namespace Stepwise.Utf8

/-- The bytes of some characters. -/
def encodeChars (cs : List Char) : Bytes :=
  cs.flatMap String.utf8EncodeChar

theorem encode_eq (text : String) : encode text = encodeChars text.toList := rfl

@[simp] theorem encodeChars_nil : encodeChars [] = [] := rfl

theorem encodeChars_cons (c : Char) (cs : List Char) :
    encodeChars (c :: cs) = String.utf8EncodeChar c ++ encodeChars cs := List.flatMap_cons

@[simp] theorem encodeChars_append (cs ds : List Char) :
    encodeChars (cs ++ ds) = encodeChars cs ++ encodeChars ds := List.flatMap_append

@[simp] theorem encodeChars_eq_nil_iff {cs : List Char} : encodeChars cs = [] ↔ cs = [] := by
  cases cs with
  | nil => simp
  | cons c cs => simp [encodeChars_cons, String.utf8EncodeChar_ne_nil]

theorem encode_append (text more : String) :
    encode (text ++ more) = encode text ++ encode more := by
  rw [encode_eq, String.toList_append, encodeChars_append]
  rfl

/-! ## The bytes of a character -/

theorem toNat_ofNat {n : Nat} (h : n < 0x100) : (UInt8.ofNat n).toNat = n := by
  simpa using Nat.mod_eq_of_lt h

theorem toNat_valid (c : Char) : c.toNat < 0xD800 ∨ (0xDFFF < c.toNat ∧ c.toNat < 0x110000) :=
  c.valid

theorem encodeChar_of_ascii {c : Char} (h : c.toNat < 0x80) :
    String.utf8EncodeChar c = [UInt8.ofNat c.toNat] :=
  if_pos (show c.toNat ≤ 0x7F by omega)

/-- A byte that ends a character. -/
def tailByte (n : Nat) : UInt8 := UInt8.ofNat (n % 0x40 + 0x80)

theorem toNat_tailByte (n : Nat) : (tailByte n).toNat = n % 0x40 + 0x80 :=
  toNat_ofNat (by omega)

theorem encodeChar_of_two {c : Char} (hlow : 0x80 ≤ c.toNat) (hhigh : c.toNat < 0x800) :
    String.utf8EncodeChar c = [UInt8.ofNat (c.toNat / 64 % 0x20 + 0xC0), tailByte c.toNat] := by
  have h1 : ¬ c.val.toNat ≤ 0x7F := Nat.not_le.mpr hlow
  have h2 : c.val.toNat ≤ 0x7FF := Nat.le_of_lt_succ hhigh
  rw [String.utf8EncodeChar, if_neg h1, if_pos h2]
  rfl

theorem encodeChar_of_three {c : Char} (hlow : 0x800 ≤ c.toNat) (hhigh : c.toNat < 0x10000) :
    String.utf8EncodeChar c =
      [UInt8.ofNat (c.toNat / 4096 % 0x10 + 0xE0), tailByte (c.toNat / 64), tailByte c.toNat] := by
  have h1 : ¬ c.val.toNat ≤ 0x7F := Nat.not_le.mpr (Nat.le_trans (by decide) hlow)
  have h2 : ¬ c.val.toNat ≤ 0x7FF := Nat.not_le.mpr hlow
  have h3 : c.val.toNat ≤ 0xFFFF := Nat.le_of_lt_succ hhigh
  rw [String.utf8EncodeChar, if_neg h1, if_neg h2, if_pos h3]
  rfl

theorem encodeChar_of_four {c : Char} (hlow : 0x10000 ≤ c.toNat) :
    String.utf8EncodeChar c = [UInt8.ofNat (c.toNat / 262144 % 0x08 + 0xF0),
      tailByte (c.toNat / 4096), tailByte (c.toNat / 64), tailByte c.toNat] := by
  have h1 : ¬ c.val.toNat ≤ 0x7F := Nat.not_le.mpr (Nat.le_trans (by decide) hlow)
  have h2 : ¬ c.val.toNat ≤ 0x7FF := Nat.not_le.mpr (Nat.le_trans (by decide) hlow)
  have h3 : ¬ c.val.toNat ≤ 0xFFFF := Nat.not_le.mpr hlow
  rw [String.utf8EncodeChar, if_neg h1, if_neg h2, if_neg h3]
  rfl

/-- A character is written in one of four ways. -/
theorem size_cases (c : Char) : c.toNat < 0x80 ∨ (0x80 ≤ c.toNat ∧ c.toNat < 0x800) ∨
    (0x800 ≤ c.toNat ∧ c.toNat < 0x10000) ∨ 0x10000 ≤ c.toNat := by
  omega

/-- A character outside ASCII is a byte that says how many follow it, and these. -/
theorem exists_tailBytes {c : Char} (h : 0x80 ≤ c.toNat) : ∃ (m : Nat) (vs : List Nat),
    0xC0 ≤ m ∧ m < 0x100 ∧ String.utf8EncodeChar c = UInt8.ofNat m :: vs.map tailByte := by
  rcases size_cases c with hone | ⟨hlow, hhigh⟩ | ⟨hlow, hhigh⟩ | hlow
  · omega
  · exact ⟨_, [c.toNat], by omega, by omega, encodeChar_of_two hlow hhigh⟩
  · exact ⟨_, [c.toNat / 64, c.toNat], by omega, by omega, encodeChar_of_three hlow hhigh⟩
  · exact ⟨_, [c.toNat / 4096, c.toNat / 64, c.toNat], by omega, by omega, encodeChar_of_four hlow⟩

/-- **The bytes of a character** are in ASCII iff it is, and there is only one then. -/
theorem mem_encodeChar {c : Char} {b : UInt8} (h : b ∈ String.utf8EncodeChar c) :
    (c.toNat < 0x80 ∧ b.toNat = c.toNat) ∨ (0x80 ≤ c.toNat ∧ 0x80 ≤ b.toNat) := by
  by_cases hone : c.toNat < 0x80
  · rw [encodeChar_of_ascii hone, List.mem_singleton] at h
    exact .inl ⟨hone, by rw [h, toNat_ofNat (by omega)]⟩
  · obtain ⟨m, vs, hm, hm', hbytes⟩ := exists_tailBytes (Nat.le_of_not_lt hone)
    refine .inr ⟨Nat.le_of_not_lt hone, ?_⟩
    rw [hbytes] at h
    rcases List.mem_cons.mp h with rfl | htail
    · rw [toNat_ofNat hm']
      omega
    · obtain ⟨v, -, rfl⟩ := List.mem_map.mp htail
      rw [toNat_tailByte]
      omega

/-- A byte of ASCII is the byte of its character, wherever it is found. -/
theorem beq_of_mem_encodeChar {a : Char} (ha : a.toNat < 0x80) (c : Char) (b : UInt8)
    (h : b ∈ String.utf8EncodeChar c) : (b == UInt8.ofNat a.toNat) = (c == a) := by
  rw [Bool.eq_iff_iff, beq_iff_eq, beq_iff_eq, ← UInt8.toNat_inj, toNat_ofNat (by omega),
    ← Char.toNat_inj]
  rcases mem_encodeChar h with ⟨-, hb⟩ | ⟨hc, hb⟩
  · rw [hb]
  · omega

theorem mem_encode_iff {a : Char} (ha : a.toNat < 0x80) (text : String) :
    UInt8.ofNat a.toNat ∈ encode text ↔ a ∈ text.toList := by
  rw [encode_eq, encodeChars, List.mem_flatMap]
  constructor
  · rintro ⟨c, hc, hb⟩
    have heq : c = a := by simpa using (beq_of_mem_encodeChar ha c _ hb).symm
    exact heq ▸ hc
  · intro hmem
    exact ⟨a, hmem, by rw [encodeChar_of_ascii ha]; exact List.mem_singleton_self _⟩

/-! ## Searching bytes -/

section

variable {p : UInt8 → Bool} {q : Char → Bool}

/-- **Bytes are judged as their characters are**, if they are in ASCII and all others get one
answer. -/
theorem judged_alike {v : Bool} (hascii : ∀ n < 0x80, p (UInt8.ofNat n) = q (Char.ofNat n))
    (hbyte : ∀ n < 0x100, 0x80 ≤ n → p (UInt8.ofNat n) = v) (hchar : ∀ c, 0x80 ≤ c.toNat → q c = v)
    (c : Char) (b : UInt8) (h : b ∈ String.utf8EncodeChar c) : p b = q c := by
  have hb : UInt8.ofNat b.toNat = b := UInt8.ofNat_toNat
  rcases mem_encodeChar h with ⟨hlt, heq⟩ | ⟨hc, hle⟩
  · rw [← hb, heq, hascii _ hlt, Char.ofNat_toNat]
  · rw [← hb, hbyte _ b.toNat_lt hle, hchar c hc]

/-- **A search through bytes** stops where one through characters does, if the bytes of a character
are judged as it is. -/
theorem takeWhile_encodeChars (h : ∀ c, ∀ b ∈ String.utf8EncodeChar c, p b = q c) (cs : List Char) :
    (encodeChars cs).takeWhile p = encodeChars (cs.takeWhile q) := by
  induction cs with
  | nil => rfl
  | cons c cs ih =>
    rw [encodeChars_cons]
    cases hq : q c with
    | true =>
      have hall : ∀ b ∈ String.utf8EncodeChar c, p b = true := fun b hb => (h c b hb).trans hq
      rw [List.takeWhile_append_of_pos hall, ih, List.takeWhile_cons_of_pos hq, encodeChars_cons]
    | false =>
      obtain ⟨b, bs, hb⟩ := List.exists_cons_of_ne_nil (String.utf8EncodeChar_ne_nil (c := c))
      have hnot : ¬ p b = true := by
        rw [h c b (by rw [hb]; exact List.mem_cons_self), hq]
        decide
      rw [hb, List.cons_append, List.takeWhile_cons_of_neg hnot,
        List.takeWhile_cons_of_neg (by simp [hq])]
      rfl

end

/-! ## Reading what was written -/

/-- One more byte of a character: its number so far is completed by six bits. -/
theorem tails_tailByte {low high : UInt8} {v : Nat} (hlow : low.toNat ≤ v % 0x40 + 0x80)
    (hhigh : v % 0x40 + 0x80 ≤ high.toNat) (k : Nat) (rest : Bytes) :
    tails (k + 1) low high (v / 64) (tailByte v :: rest) = tails k 0x80 0xBF v rest := by
  have hrange : low ≤ tailByte v ∧ tailByte v ≤ high := by
    rw [UInt8.le_iff_toNat_le, UInt8.le_iff_toNat_le, toNat_tailByte]
    exact ⟨hlow, hhigh⟩
  have hbits : v / 64 * 64 + v % 0x40 = v := by omega
  rw [tails, if_pos hrange, toNat_tailByte, Nat.add_sub_cancel, hbits]

/-- The bytes after the first two are free. -/
theorem tails_free (k v : Nat) (rest : Bytes) :
    tails (k + 1) 0x80 0xBF (v / 64) (tailByte v :: rest) = tails k 0x80 0xBF v rest :=
  tails_tailByte (show 0x80 ≤ v % 0x40 + 0x80 by omega) (show v % 0x40 + 0x80 ≤ 0xBF by omega)
    k rest

/-- The announcement of a byte, by its number. -/
theorem lead?_eq (b : UInt8) : lead? b =
    if b.toNat < 0xC2 then none
    else if b.toNat < 0xE0 then some ⟨1, 0x80, 0xBF, b.toNat - 0xC0⟩
    else if b.toNat = 0xE0 then some ⟨2, 0xA0, 0xBF, 0⟩
    else if b.toNat = 0xED then some ⟨2, 0x80, 0x9F, 0xD⟩
    else if b.toNat < 0xF0 then some ⟨2, 0x80, 0xBF, b.toNat - 0xE0⟩
    else if b.toNat = 0xF0 then some ⟨3, 0x90, 0xBF, 0⟩
    else if b.toNat < 0xF4 then some ⟨3, 0x80, 0xBF, b.toNat - 0xF0⟩
    else if b.toNat = 0xF4 then some ⟨3, 0x80, 0x8F, 4⟩
    else none := by
  simp only [lead?, UInt8.lt_iff_toNat_lt, ← UInt8.toNat_inj]
  rfl

/-- A lead byte announces `k` more bytes after the next one, and the next one completes the number
of the character up to `v`. -/
structure Announces (l : Lead) (k v : Nat) : Prop where
  tails : l.tails = k + 1
  bits : l.bits = v / 64
  low : l.low.toNat ≤ v % 0x40 + 0x80
  high : v % 0x40 + 0x80 ≤ l.high.toNat

/-- A lead byte that leaves the next byte free. -/
theorem announces_free (k v : Nat) : Announces ⟨k + 1, 0x80, 0xBF, v / 64⟩ k v where
  tails := rfl
  bits := rfl
  low := show 0x80 ≤ v % 0x40 + 0x80 by omega
  high := show v % 0x40 + 0x80 ≤ 0xBF by omega

theorem lead?_of_two {n : Nat} (hlow : 0x80 ≤ n) (hhigh : n < 0x800) :
    ∃ l, lead? (UInt8.ofNat (n / 64 % 0x20 + 0xC0)) = some l ∧ Announces l 0 n := by
  have hbits : n / 64 % 0x20 + 0xC0 - 0xC0 = n / 64 := by omega
  rw [lead?_eq, toNat_ofNat (by omega), if_neg (by omega), if_pos (by omega), hbits]
  exact ⟨_, rfl, announces_free 0 n⟩

/-- The first of three bytes. What it carries leaves some next bytes to shorter characters, and some
to no character at all. -/
theorem lead?_of_three {n : Nat} (hlow : 0x800 ≤ n) (hhigh : n < 0x10000)
    (hvalid : n < 0xD800 ∨ 0xDFFF < n) :
    ∃ l, lead? (UInt8.ofNat (n / 4096 % 0x10 + 0xE0)) = some l ∧ Announces l 1 (n / 64) := by
  have hbits : n / 4096 % 0x10 + 0xE0 - 0xE0 = n / 64 / 64 := by omega
  rw [lead?_eq, toNat_ofNat (by omega), if_neg (by omega), if_neg (by omega), hbits]
  split_ifs with hfirst hsurrogate
  · refine ⟨_, rfl, rfl,
      show 0 = n / 64 / 64 by omega, show 0xA0 ≤ _ by omega, show _ ≤ 0xBF by omega⟩
  · refine ⟨_, rfl, rfl,
      show 0xD = n / 64 / 64 by omega, show 0x80 ≤ _ by omega, show _ ≤ 0x9F by omega⟩
  · exact ⟨_, rfl, announces_free 1 (n / 64)⟩
  all_goals omega

/-- The first of four bytes. -/
theorem lead?_of_four {n : Nat} (hlow : 0x10000 ≤ n) (hhigh : n < 0x110000) :
    ∃ l, lead? (UInt8.ofNat (n / 262144 % 0x08 + 0xF0)) = some l ∧ Announces l 2 (n / 4096) := by
  have hbits : n / 262144 % 0x08 + 0xF0 - 0xF0 = n / 4096 / 64 := by omega
  rw [lead?_eq, toNat_ofNat (by omega), if_neg (by omega), if_neg (by omega), if_neg (by omega),
    if_neg (by omega), if_neg (by omega), hbits]
  split_ifs with hfirst _ hlast
  · refine ⟨_, rfl, rfl,
      show 0 = n / 4096 / 64 by omega, show 0x90 ≤ _ by omega, show _ ≤ 0xBF by omega⟩
  · exact ⟨_, rfl, announces_free 2 (n / 4096)⟩
  · refine ⟨_, rfl, rfl,
      show 4 = n / 4096 / 64 by omega, show 0x80 ≤ _ by omega, show _ ≤ 0x8F by omega⟩
  · omega

/-- Reading a lead byte and the byte after it. -/
theorem front_of_lead {m k v : Nat} (hm : 0x80 ≤ m) (hm' : m < 0x100)
    (h : ∃ l, lead? (UInt8.ofNat m) = some l ∧ Announces l k v) (rest : Bytes) :
    front (UInt8.ofNat m) (tailByte v :: rest) = tails k 0x80 0xBF v rest := by
  obtain ⟨l, hl, ha⟩ := h
  have hnot : ¬ UInt8.ofNat m < 0x80 := by
    rw [UInt8.lt_iff_toNat_lt, toNat_ofNat hm']
    exact Nat.not_lt.mpr hm
  rw [front, if_neg hnot, hl]
  simp only
  rw [ha.tails, ha.bits, tails_tailByte ha.low ha.high]

/-- **A character is read from its bytes**, whatever follows. -/
theorem front_encodeChar (c : Char) (rest : Bytes) : ∃ b bs,
    String.utf8EncodeChar c = b :: bs ∧ front b (bs ++ rest) = (some c, rest) := by
  have hdone : tails 0 0x80 0xBF c.toNat rest = (some c, rest) := by rw [tails, Char.ofNat_toNat]
  have hdiv : c.toNat / 4096 = c.toNat / 64 / 64 := by omega
  have hvalid := toNat_valid c
  rcases size_cases c with hone | ⟨hlow, hhigh⟩ | ⟨hlow, hhigh⟩ | hlow
  · refine ⟨_, _, encodeChar_of_ascii hone, ?_⟩
    have hascii : UInt8.ofNat c.toNat < 0x80 := by
      rw [UInt8.lt_iff_toNat_lt, toNat_ofNat (by omega)]
      exact hone
    rw [front, if_pos hascii, toNat_ofNat (by omega), Char.ofNat_toNat, List.nil_append]
  · refine ⟨_, _, encodeChar_of_two hlow hhigh, ?_⟩
    exact (front_of_lead (by omega) (by omega) (lead?_of_two hlow hhigh) _).trans hdone
  · refine ⟨_, _, encodeChar_of_three hlow hhigh, ?_⟩
    refine (front_of_lead (by omega) (by omega) (lead?_of_three hlow hhigh (by omega)) _).trans ?_
    exact (tails_free 0 _ _).trans hdone
  · refine ⟨_, _, encodeChar_of_four hlow, ?_⟩
    refine (front_of_lead (by omega) (by omega) (lead?_of_four hlow (by omega)) _).trans ?_
    rw [hdiv]
    exact (tails_free 1 _ _).trans ((tails_free 0 _ _).trans hdone)

theorem units_encodeChars (cs : List Char) : units (encodeChars cs) = cs.map some := by
  induction cs with
  | nil => rw [encodeChars_nil, units]; rfl
  | cons c cs ih =>
    obtain ⟨b, bs, hb, hfront⟩ := front_encodeChar c (encodeChars cs)
    rw [encodeChars_cons, hb, List.cons_append, units, hfront, ih, List.map_cons]

/-- **A text is read from its bytes**, whether or not faults are allowed. -/
theorem decodeLossy_encodeChars (cs : List Char) :
    decodeLossy (encodeChars cs) = String.ofList cs := by
  rw [decodeLossy, units_encodeChars, List.map_map]
  exact congrArg String.ofList (List.map_id cs)

theorem decode?_encode (text : String) : decode? (encode text) = some text := by
  have hread : ∀ cs : List Char, (cs.map some).mapM id = some cs := fun cs => by
    induction cs with
    | nil => rfl
    | cons c cs ih => rw [List.map_cons, List.mapM_cons, ih]; rfl
  rw [decode?, encode_eq, units_encodeChars, hread, Option.map_some, String.ofList_toList]

end Stepwise.Utf8
