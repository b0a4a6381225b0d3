import Stepwise.Proofs.Expansion.Grammar
import Stepwise.Proofs.Influence
import Stepwise.Proofs.Text.Utf8

/-!
# Expansion follows its grammar

Expansion reads bytes and the grammar is about characters. A `$` is read as the form that fits, so
the pass over the bytes goes from token to token, and what it asks for is known before it gets any
answer.

* `Expansion.readName_of_fits`: what follows a `$` is read as the form that fits.
* `Expansion.expandFrom_token`: **one token** of the pass. `expandFrom_tokens`: all of them.
* `Expansion.expandFrom_eq_cut`: the pass asks and writes as the segments of the bytes say.
* `Declaration.variableOf_eq_expandM`: the value of a declaration and its sensitivity come from one
  pass.
* `Expansion.expand_grammar`: **expansion follows the grammar**, whatever the mapping does.
-/

namespace Stepwise.Expansion

open Utf8 (encodeChars)

/-! ## Bytes as characters -/

theorem lt_of_isDigit {c : Char} (h : c.isDigit) : c.toNat < 0x80 :=
  Nat.lt_of_le_of_lt (Char.isDigit_iff_toNat.mp h).2 (by decide)

theorem lt_of_isAlpha {c : Char} (h : c.isAlpha) : c.toNat < 0x80 := by
  have hle : c.val ≤ 'z'.val := by
    rcases Bool.or_eq_true_iff.mp (show (c.isUpper || c.isLower) = true from h) with hupper | hlower
    · have hrange : c.val ≥ 'A'.val ∧ c.val ≤ 'Z'.val := of_decide_eq_true hupper
      exact UInt32.le_trans hrange.2 (by decide)
    · have hrange : (decide (c.val ≥ 'a'.val) && decide (c.val ≤ 'z'.val)) = true := hlower
      exact of_decide_eq_true (Bool.and_eq_true_iff.mp hrange).2
  exact Nat.lt_of_le_of_lt (UInt32.le_iff_toNat_le.mp hle) (by decide)

theorem lt_of_isNameChar {c : Char} (h : isNameChar c) : c.toNat < 0x80 := by
  simp only [isNameChar, Char.isAlphanum, Bool.or_eq_true, decide_eq_true_eq] at h
  rcases h with (halpha | hdigit) | rfl
  · exact lt_of_isAlpha halpha
  · exact lt_of_isDigit hdigit
  · decide

theorem lt_of_isSpecialChar {c : Char} (h : isSpecialChar c) : c.toNat < 0x80 := by
  rcases Bool.or_eq_true_iff.mp h with hmem | hdigit
  · have hall : ['*', '#', '$', '@', '!', '?', '-'].all (·.toNat < 0x80) = true := by decide
    simpa using List.all_eq_true.mp hall c (by simpa using hmem)
  · exact lt_of_isDigit hdigit

/-- A kind of ASCII characters has no other character. -/
theorem eq_false_of_lt {q : Char → Bool} (hq : ∀ c, q c = true → c.toNat < 0x80) (c : Char)
    (h : 0x80 ≤ c.toNat) : q c = false :=
  Bool.eq_false_iff.mpr fun hc => absurd (hq c hc) (Nat.not_lt.mpr h)

theorem isNameByte_of_mem (c : Char) (b : UInt8) (h : b ∈ String.utf8EncodeChar c) :
    isNameByte b = isNameChar c :=
  Utf8.judged_alike (v := false) (by decide +kernel) (by decide +kernel)
    (eq_false_of_lt fun _ => lt_of_isNameChar) c b h

theorem isSpecial_of_mem (c : Char) (b : UInt8) (h : b ∈ String.utf8EncodeChar c) :
    isSpecial b = isSpecialChar c :=
  Utf8.judged_alike (v := false) (by decide +kernel) (by decide +kernel)
    (eq_false_of_lt fun _ => lt_of_isSpecialChar) c b h

theorem beq_openBrace_of_mem (c : Char) (b : UInt8) (h : b ∈ String.utf8EncodeChar c) :
    (b == openBrace) = (c == '{') :=
  Utf8.beq_of_mem_encodeChar (a := '{') (by decide) c b h

theorem bne_closeBrace_of_mem (c : Char) (b : UInt8) (h : b ∈ String.utf8EncodeChar c) :
    (b != closeBrace) = (c != '}') :=
  congrArg (!·) (Utf8.beq_of_mem_encodeChar (a := '}') (by decide) c b h)

theorem bne_dollar_of_mem (c : Char) (b : UInt8) (h : b ∈ String.utf8EncodeChar c) :
    (b != dollar) = (c != '$') :=
  congrArg (!·) (Utf8.beq_of_mem_encodeChar (a := '$') (by decide) c b h)

/-! ## What follows a `$` -/

theorem readBraced_unclosed {rest : List Char} (h : '}' ∉ rest) :
    readBraced (encodeChars rest) = ⟨none, 1⟩ := by
  have hall : rest.takeWhile (· != '}') = rest :=
    List.takeWhile_eq_self_iff.mpr fun c hc => bne_iff_ne.mpr fun heq => h (heq ▸ hc)
  have htake := Utf8.takeWhile_encodeChars bne_closeBrace_of_mem rest
  rw [hall] at htake
  unfold readBraced
  simp only [htake, if_true]

theorem readBraced_closed {name : List Char} (h : '}' ∉ name) (rest : List Char) :
    readBraced (encodeChars (name ++ '}' :: rest)) =
      if name = [] then ⟨none, 2⟩
        else ⟨some (encodeChars name), (encodeChars name).length + 2⟩ := by
  have htake := Utf8.takeWhile_encodeChars bne_closeBrace_of_mem (name ++ '}' :: rest)
  rw [takeWhile_of_notMem h] at htake
  have hlength : (encodeChars name).length ≠ (encodeChars (name ++ '}' :: rest)).length := by
    have hbrace : encodeChars ('}' :: rest) = closeBrace :: encodeChars rest := rfl
    rw [Utf8.encodeChars_append, hbrace, List.length_append, List.length_cons]
    omega
  unfold readBraced
  simp only [htake, if_neg hlength, List.isEmpty_iff, Utf8.encodeChars_eq_nil_iff]

/-- After a `$` that is followed by something else than a brace or a special character, a plain name
is read as far as it goes. -/
theorem readName_cons {c : Char} (hbrace : c ≠ '{') (hspecial : ¬ isSpecialChar c)
    (rest : List Char) :
    readName (encodeChars (c :: rest)) =
      if (c :: rest).takeWhile isNameChar = [] then ⟨none, 0⟩
      else ⟨some (encodeChars ((c :: rest).takeWhile isNameChar)),
        (encodeChars ((c :: rest).takeWhile isNameChar)).length⟩ := by
  have htake := Utf8.takeWhile_encodeChars isNameByte_of_mem (c :: rest)
  obtain ⟨b, bs, hb⟩ := List.exists_cons_of_ne_nil (String.utf8EncodeChar_ne_nil (c := c))
  have hmem : b ∈ String.utf8EncodeChar c := by rw [hb]; exact List.mem_cons_self
  have hb' : b ≠ openBrace := by
    intro heq
    have hiff := beq_openBrace_of_mem c b hmem
    rw [beq_iff_eq.mpr heq] at hiff
    exact hbrace (eq_of_beq hiff.symm)
  have hs : ¬ isSpecial b = true := by rwa [isSpecial_of_mem c b hmem]
  rw [Utf8.encodeChars_cons, hb, List.cons_append] at htake ⊢
  rw [readName, if_neg hb', if_neg hs]
  simp only [htake, List.isEmpty_iff, Utf8.encodeChars_eq_nil_iff]

/-- A special character is a single byte. -/
theorem readName_special {c : Char} (h : isSpecialChar c) (rest : List Char) :
    readName (encodeChars (c :: rest)) = ⟨some (encodeChars [c]), 1⟩ := by
  have hbyte := Utf8.encodeChar_of_ascii (lt_of_isSpecialChar h)
  have hmem : UInt8.ofNat c.toNat ∈ String.utf8EncodeChar c := by
    rw [hbyte]; exact List.mem_cons_self
  have hspecial : isSpecial (UInt8.ofNat c.toNat) = true := by rw [isSpecial_of_mem c _ hmem, h]
  have hbrace : UInt8.ofNat c.toNat ≠ openBrace := by
    intro heq
    rw [heq] at hspecial
    exact absurd hspecial (by decide)
  rw [Utf8.encodeChars_cons, Utf8.encodeChars_cons, hbyte, List.cons_append, readName,
    if_neg hbrace, if_pos hspecial]
  rfl

/-- **What follows a `$`** is read as the form that fits. -/
theorem readName_of_fits {form : Form} {rest : List Char} (h : form.Fits rest) :
    readName (encodeChars (form.text ++ rest)) =
      ⟨form.name?.map encodeChars, (encodeChars form.text).length⟩ := by
  have hopen : ∀ cs, readName (encodeChars ('{' :: cs)) = readBraced (encodeChars cs) :=
    fun _ => rfl
  cases form with
  | special c =>
    have hc : isSpecialChar c := h
    have hlength : (encodeChars [c]).length = 1 := by
      rw [Utf8.encodeChars_cons, Utf8.encodeChar_of_ascii (lt_of_isSpecialChar hc)]
      rfl
    rw [Form.text, List.singleton_append, readName_special hc, Form.name?, hlength]
    rfl
  | plain name =>
    have htake : (name ++ rest).takeWhile isNameChar = name := h.takeWhile_plain
    obtain ⟨c, cs, rfl⟩ := List.exists_cons_of_ne_nil h.1
    obtain ⟨hbrace, hspecial, -⟩ := h.head_plain
    rw [List.cons_append] at htake
    rw [Form.text, List.cons_append, readName_cons hbrace hspecial, htake, if_neg h.1]
    rfl
  | braced name =>
    obtain ⟨hne, hname⟩ : name ≠ [] ∧ '}' ∉ name := h
    have hlength : (encodeChars ('{' :: (name ++ ['}']))).length =
        (encodeChars name).length + 2 := by
      have hbraces : encodeChars ('{' :: (name ++ ['}'])) =
          openBrace :: (encodeChars name ++ [closeBrace]) :=
        congrArg (openBrace :: ·) (Utf8.encodeChars_append name ['}'])
      rw [hbraces, List.length_cons, List.length_append, List.length_singleton]
    rw [Form.text, hlength, List.cons_append, List.append_assoc, List.singleton_append, hopen,
      readBraced_closed hname, if_neg hne]
    rfl
  | hollow =>
    rw [Form.text, List.cons_append, List.singleton_append, hopen]
    exact readBraced_closed (show '}' ∉ [] from List.not_mem_nil) rest
  | unclosed =>
    have hrest : '}' ∉ rest := h
    rw [Form.text, List.singleton_append, hopen, readBraced_unclosed hrest]
    rfl
  | lone =>
    have hrest : ∀ c ∈ rest.head?, c ≠ '{' ∧ ¬ isSpecialChar c ∧ ¬ isNameChar c := h
    cases rest with
    | nil => rfl
    | cons c rest =>
      obtain ⟨hbrace, hspecial, hname⟩ := hrest c rfl
      rw [Form.text, List.nil_append, readName_cons hbrace hspecial,
        List.takeWhile_cons_of_neg hname, if_pos rfl]
      rfl

/-! ## One pass over the bytes -/

section

variable {m : Type → Type u} [Monad m] {mapping : Bytes → m Bytes}

theorem expandFrom_of_dropWhile {input : Bytes} {d b : UInt8} {rest : Bytes}
    (h : input.dropWhile (· != dollar) = d :: b :: rest) (output : Bytes) :
    expandFrom mapping output input =
      (let r := readName (b :: rest)
       let written := output ++ input.takeWhile (· != dollar)
       let remaining := (b :: rest).drop r.width
       match r.name with
       | none => expandFrom mapping (if r.width = 0 then written ++ [dollar] else written) remaining
       | some name =>
         mapping name >>= fun value => expandFrom mapping (written ++ value) remaining) := by
  rw [expandFrom]
  split
  · rename_i heq
    rw [h] at heq
    obtain ⟨rfl, rfl, rfl⟩ : d = _ ∧ b = _ ∧ rest = _ := by simpa using heq
    rfl
  · rename_i hshort
    exact absurd h (hshort d b rest)

theorem expandFrom_of_short {input : Bytes}
    (h : ∀ d b rest, input.dropWhile (· != dollar) ≠ d :: b :: rest)
    (output : Bytes) : expandFrom mapping output input = pure (output ++ input) := by
  rw [expandFrom]
  split
  · rename_i heq
    exact absurd heq (h _ _ _)
  · rfl

theorem expandFrom_nil (output : Bytes) : expandFrom mapping output [] = pure output := by
  have hshort : ∀ d b rest, ([] : Bytes).dropWhile (· != dollar) ≠ d :: b :: rest := by simp
  rw [expandFrom_of_short hshort, List.append_nil]

/-- A `$` that is the last byte stays, without being looked at. -/
theorem expandFrom_last (output : Bytes) :
    expandFrom mapping output [dollar] = pure (output ++ [dollar]) := by
  have hshort : ∀ d b rest, [dollar].dropWhile (· != dollar) ≠ d :: b :: rest :=
    fun d b rest heq => absurd (congrArg List.length heq) (by simp)
  exact expandFrom_of_short hshort output

/-- Bytes other than `$` stay. -/
theorem expandFrom_append {front : Bytes} (h : ∀ b ∈ front, (b != dollar) = true)
    (output rest : Bytes) :
    expandFrom mapping output (front ++ rest) = expandFrom mapping (output ++ front) rest := by
  have hdrop : (front ++ rest).dropWhile (· != dollar) = rest.dropWhile (· != dollar) :=
    List.dropWhile_append_of_pos h
  have htake : (front ++ rest).takeWhile (· != dollar) = front ++ rest.takeWhile (· != dollar) :=
    List.takeWhile_append_of_pos h
  by_cases hrest : ∃ d b tail, rest.dropWhile (· != dollar) = d :: b :: tail
  · obtain ⟨d, b, tail, hrest⟩ := hrest
    rw [expandFrom_of_dropWhile (hdrop.trans hrest), expandFrom_of_dropWhile hrest, htake,
      List.append_assoc]
  · have hshort : ∀ d b tail, rest.dropWhile (· != dollar) ≠ d :: b :: tail :=
      fun d b tail h => hrest ⟨d, b, tail, h⟩
    rw [expandFrom_of_short (by rwa [hdrop]), expandFrom_of_short hshort, List.append_assoc]

/-- Only a lone `$` is kept, and only it takes nothing of what follows. -/
theorem encodeChars_kept {form : Form} (h : form.name? = none) :
    encodeChars form.kept = if (encodeChars form.text).length = 0 then [dollar] else [] := by
  cases form with
  | special c => exact absurd h nofun
  | plain name => exact absurd h nofun
  | braced name => exact absurd h nofun
  | hollow => rfl
  | unclosed => rfl
  | lone => rfl

/-- **A `$` and what it begins**, in the pass over the bytes. -/
theorem expandFrom_dollar {form : Form} {rest : List Char} (h : form.Fits rest) (output : Bytes) :
    expandFrom mapping output (encodeChars ('$' :: (form.text ++ rest))) =
      match form.name? with
      | none => expandFrom mapping (output ++ encodeChars form.kept) (encodeChars rest)
      | some name => mapping (encodeChars name) >>= fun value =>
        expandFrom mapping (output ++ value) (encodeChars rest) := by
  have hdollar : encodeChars ('$' :: (form.text ++ rest)) =
      dollar :: encodeChars (form.text ++ rest) := rfl
  have hread := readName_of_fits h
  have hdrop : (encodeChars (form.text ++ rest)).drop (encodeChars form.text).length =
      encodeChars rest := by
    rw [Utf8.encodeChars_append, List.drop_left]
  rw [hdollar]
  cases hafter : encodeChars (form.text ++ rest) with
  | nil =>
    -- the `$` is the last byte, where it is not looked at
    obtain ⟨htext, rfl⟩ := List.append_eq_nil_iff.mp (Utf8.encodeChars_eq_nil_iff.mp hafter)
    obtain rfl : form = .lone := by rw [← Form.read_of_fits h, htext]; rfl
    exact (expandFrom_last output).trans (expandFrom_nil _).symm
  | cons b bs =>
    rw [hafter] at hread hdrop
    have hhead : (dollar :: b :: bs).dropWhile (· != dollar) = dollar :: b :: bs := rfl
    have htake : (dollar :: b :: bs).takeWhile (· != dollar) = [] := rfl
    rw [expandFrom_of_dropWhile hhead, hread, htake, List.append_nil]
    simp only [hdrop]
    cases hname : form.name? with
    | none =>
      rw [encodeChars_kept hname]
      simp only [Option.map_none]
      split_ifs
      · rfl
      · rw [List.append_nil]
    | some name => rfl

end

/-! ## From token to token -/

section

variable {m : Type → Type u} [Monad m] [LawfulMonad m]

/-- **One token** of the pass: it asks for the name of the token or keeps what the token is kept as,
and goes on after the token. -/
theorem expandFrom_token (mapping : String → m String) {t : Token} {rest : List Char}
    (h : t.Fits rest)
    (output : Bytes) : expandFrom (inBytes mapping) output (encodeChars (t.text ++ rest)) =
      match t.name? with
      | none => expandFrom (inBytes mapping) (output ++ encodeChars t.kept) (encodeChars rest)
      | some name => mapping name >>= fun value =>
        expandFrom (inBytes mapping) (output ++ Utf8.encode value) (encodeChars rest) := by
  cases t with
  | other c =>
    have hc : c ≠ '$' := h
    have hbytes : ∀ b ∈ encodeChars [c], (b != dollar) = true := by
      intro b hb
      rw [Utf8.encodeChars_cons, Utf8.encodeChars_nil, List.append_nil] at hb
      rw [bne_dollar_of_mem c b hb]
      exact bne_iff_ne.mpr hc
    rw [Utf8.encodeChars_append]
    exact expandFrom_append hbytes output _
  | dollar form =>
    rw [Token.text, List.cons_append, expandFrom_dollar h]
    cases hname : form.name? with
    | none => simp only [Token.name?, hname, Option.map_none, Token.kept]
    | some name =>
      simp only [Token.name?, hname, Option.map_some, inBytes, Utf8.decodeLossy_encodeChars,
        bind_map_left]

/-- The characters of some tokens whose names are replaced by answers, one after another. -/
def fill : List Token → List String → List Char
  | [], _ => []
  | t :: ts, answers =>
    match t.name?, answers with
    | some _, answer :: answers => answer.toList ++ fill ts answers
    | _, _ => t.kept ++ fill ts answers

/-- A token without a name takes no answer. -/
theorem fill_cons_of_none {t : Token} (h : t.name? = none) (ts : List Token)
    (answers : List String) :
    fill (t :: ts) answers = t.kept ++ fill ts answers := by
  simp only [fill, h]

/-- A token with a name takes the first answer. -/
theorem fill_cons_of_some {t : Token} {name : String} (h : t.name? = some name) (ts : List Token)
    (answer : String) (answers : List String) :
    fill (t :: ts) (answer :: answers) = answer.toList ++ fill ts answers := by
  simp only [fill, h]

/-- **All tokens of the pass**: every name is asked for once, in order, and the answers are filled
in. -/
theorem expandFrom_tokens (mapping : String → m String) :
    ∀ {ts : List Token}, AllFit ts → ∀ output : Bytes,
      expandFrom (inBytes mapping) output (encodeChars (textOf ts)) =
        (fun answers => output ++ encodeChars (fill ts answers)) <$> (namesOf ts).mapM mapping
  | [], _, output => by
    rw [textOf, List.flatMap_nil, Utf8.encodeChars_nil, expandFrom_nil, namesOf, List.filterMap_nil,
      List.mapM_nil, map_pure, fill, Utf8.encodeChars_nil, List.append_nil]
  | t :: ts, h, output => by
    rw [textOf_cons, expandFrom_token mapping h.1]
    cases hname : t.name? with
    | none =>
      rw [namesOf, List.filterMap_cons_none hname, ← namesOf]
      simp only [fill_cons_of_none hname, expandFrom_tokens mapping h.2, Utf8.encodeChars_append,
        List.append_assoc]
    | some name =>
      rw [namesOf, List.filterMap_cons_some hname, ← namesOf, List.mapM_cons]
      simp only [fill_cons_of_some hname, expandFrom_tokens mapping h.2, Utf8.encodeChars_append,
        Utf8.encode_eq, List.append_assoc, map_eq_pure_bind, bind_assoc, pure_bind]

end

/-! ## The segments of a text -/

/-- What a segment becomes, by a mapping that may do more than answer. -/
def Segment.renderM {m : Type → Type u} [Monad m] (mapping : Bytes → m Bytes) : Segment → m Bytes
  | .text bytes => pure bytes
  | .lone => pure [dollar]
  | .dropped => pure []
  | .reference name => mapping name

/-- The segment of a `$` is what the pass makes of it. -/
theorem renderM_segment {m : Type → Type u} [Monad m] (mapping : Bytes → m Bytes) (r : Reading) :
    r.segment.renderM mapping =
      match r.name with
      | none => pure (if r.width = 0 then [dollar] else [])
      | some name => mapping name := by
  unfold Reading.segment
  cases r.name with
  | some name => rfl
  | none =>
    simp only
    split_ifs <;> rfl

/-- **The pass does what the segments say**, one after another. -/
theorem expandFrom_eq_cut {m : Type → Type u} [Monad m] [LawfulMonad m] (mapping : Bytes → m Bytes)
    (output input : Bytes) : expandFrom mapping output input =
      (fun pieces => output ++ pieces.flatten) <$> (cut input).mapM fun s => s.renderM mapping := by
  have htext : ∀ bytes, (Segment.text bytes).renderM mapping = pure bytes := fun _ => rfl
  fun_induction cut input generalizing output with
  | case1 input d b rest h r ih =>
    rw [expandFrom_of_dropWhile h, List.mapM_cons, List.mapM_cons, htext, renderM_segment]
    simp only [r] at ih ⊢
    cases (readName (b :: rest)).name with
    | none =>
      simp only [ih, pure_bind, map_eq_pure_bind, bind_assoc, List.flatten_cons]
      split_ifs <;> simp only [List.append_assoc, List.nil_append]
    | some name =>
      simp only [ih, pure_bind, map_eq_pure_bind, bind_assoc, List.flatten_cons, List.append_assoc]
  | case2 input h =>
    rw [expandFrom_of_short h, List.mapM_cons, List.mapM_nil, htext]
    simp only [pure_bind, map_pure, List.flatten_cons, List.flatten_nil, List.append_nil]

/-- **Expansion is the pass** with a mapping that only answers. -/
theorem expand_eq_run (mapping : String → String) (input : String) :
    expand mapping input = Id.run (expandM (fun name => pure (mapping name)) input) := by
  have hrender : ∀ s : Segment, s.renderM (inBytes (m := Id) fun name => pure (mapping name)) =
      pure (s.render fun name => Utf8.encode (mapping (Utf8.decodeLossy name))) := by
    intro s
    cases s <;> rfl
  rw [expandM, expandFrom_eq_cut, expand, expandBytes, List.flatMap_def]
  simp only [hrender, List.mapM_pure, map_pure, List.nil_append]
  rfl

/-- A mapping that notes what it is asked for. -/
def note (name : String) : StateM (List String) String := fun asked => ("", asked ++ [name])

theorem asked_mapM : ∀ names asked : List String, ((names.mapM note).run asked).2 = asked ++ names
  | [], asked => (List.append_nil asked).symm
  | name :: names, asked => by
    rw [List.mapM_cons]
    refine Eq.trans (asked_mapM names (asked ++ [name])) ?_
    rw [List.append_assoc, List.singleton_append]

theorem asked_segments : ∀ (segments : List Segment) (asked : List String),
    ((segments.mapM fun s : Segment => s.renderM (inBytes note)).run asked).2 =
      asked ++ (segments.filterMap Segment.name?).map Utf8.decodeLossy
  | [], asked => (List.append_nil asked).symm
  | s :: segments, asked => by
    rw [List.mapM_cons]
    cases s with
    | text bytes => exact asked_segments segments asked
    | lone => exact asked_segments segments asked
    | dropped => exact asked_segments segments asked
    | reference name =>
      refine Eq.trans (asked_segments segments (asked ++ [Utf8.decodeLossy name])) ?_
      rw [List.append_assoc]
      rfl

/-- **The names of the tokens** are those that the text refers to. -/
theorem references_eq {input : String} {tokens : List Token} (h : IsCut input tokens) :
    references input = namesOf tokens := by
  have hpass := expandFrom_tokens note h.fit []
  rw [h.text, ← Utf8.encode_eq, expandFrom_eq_cut] at hpass
  have hasked := congrArg (fun run => (StateT.run run []).2) hpass
  have hmap : ∀ {α β : Type} (f : α → β) (x : StateM (List String) α),
      ((f <$> x).run []).2 = (x.run []).2 := fun f x => rfl
  simp only [hmap, asked_mapM, asked_segments, List.nil_append] at hasked
  exact hasked

/-! ## Expansion of a text -/

/-- **What is asked for is known before any answer**, and the answers are filled in. -/
theorem expandM_of_isCut {m : Type → Type u} [Monad m] [LawfulMonad m] {input : String}
    {tokens : List Token}
    (h : IsCut input tokens) (mapping : String → m String) : expandM mapping input =
      (fun answers => String.ofList (fill tokens answers)) <$> (namesOf tokens).mapM mapping := by
  rw [expandM, Utf8.encode_eq, ← h.text, expandFrom_tokens mapping h.fit, ← comp_map]
  refine congrArg (· <$> _) (funext fun answers => ?_)
  exact Utf8.decodeLossy_encodeChars _

theorem fill_map (mapping : String → String) : ∀ tokens : List Token,
    fill tokens ((namesOf tokens).map mapping) = tokens.flatMap (·.replaced mapping)
  | [] => rfl
  | t :: ts => by
    have ih := fill_map mapping ts
    rw [List.flatMap_cons, ← ih]
    cases hname : t.name? with
    | none =>
      simp only [namesOf, List.filterMap_cons_none hname, fill_cons_of_none hname, Token.replaced,
        hname]
    | some name =>
      simp only [namesOf, List.filterMap_cons_some hname, List.map_cons, fill_cons_of_some hname,
        Token.replaced, hname]

theorem expand_of_isCut {input : String} {tokens : List Token} (h : IsCut input tokens)
    (mapping : String → String) :
    expand mapping input = String.ofList (tokens.flatMap (·.replaced mapping)) := by
  rw [expand_eq_run, expandM_of_isCut h, List.mapM_pure, map_pure, fill_map]
  rfl

/-- **Expansion follows its grammar.** A text is cut into tokens in one way. Expansion puts them
together again, each name replaced by what the mapping says of it and the rest kept or dropped as
its form says. Where the mapping may do more than answer, it is asked for the names of the tokens
and nothing else, once for each and in order, and its answers are filled in as they are; a mapping
that only answers is the case without effects. -/
theorem expand_grammar {m : Type → Type u} [Monad m] [LawfulMonad m] (input : String) :
    ∃ tokens, IsCut input tokens ∧ (∀ others, IsCut input others → others = tokens) ∧
      (∀ mapping : String → String,
        expand mapping input = String.ofList (tokens.flatMap (·.replaced mapping))) ∧
      (∀ mapping : String → String,
        expand mapping input = Id.run (expandM (fun name => pure (mapping name)) input)) ∧
      (∀ mapping : String → m String, expandM mapping input =
        (fun answers => String.ofList (fill tokens answers)) <$> (namesOf tokens).mapM mapping) ∧
      references input = namesOf tokens := by
  obtain ⟨tokens, hcut, honly⟩ := existsUnique_isCut input
  refine ⟨tokens, hcut, honly, ?_, ?_, ?_, ?_⟩
  · exact expand_of_isCut hcut
  · intro mapping
    exact expand_eq_run mapping input
  · exact expandM_of_isCut hcut
  · exact references_eq hcut

/-- Names beside each other and with a brace in one of them, answers that look like references, and
braces that hold nothing or are not closed. -/
theorem expand_grammar_noted :
    let ask : String → StateM (List String) String :=
      fun name asked => ("$" ++ name, asked ++ [name])
    (expandM ask "é$A$$$\x7bB\x7b\x7d$\x7b\x7dx$ $\x7bC$9_$").run [] =
      ("é$A$$$B\x7bx$ C$9_$", ["A", "$", "B\x7b", "9"]) := by
  intro ask
  obtain ⟨tokens, -, honly, -, -, hask, -⟩ :=
    expand_grammar (m := StateM (List String)) "é$A$$$\x7bB\x7b\x7d$\x7b\x7dx$ $\x7bC$9_$"
  have htokens := honly [.other 'é', .dollar (.plain ['A']), .dollar (.special '$'),
    .dollar (.braced ['B', '{']), .dollar .hollow, .other 'x', .dollar .lone, .other ' ',
      .dollar .unclosed,
    .other 'C', .dollar (.special '9'), .other '_', .dollar .lone] (by decide)
  rw [hask, ← htokens]
  rfl

end Stepwise.Expansion

namespace Stepwise.Declaration

/-! ## The pass of a declaration -/

/-- What a declaration answers for a name, noting whether the variable is sensitive. -/
def answer (env : Environment) (name : String) : StateM Bool String := fun sensitive =>
  (lookUp env name, sensitive || (env.get? name).any (·.isSensitive))

theorem run_answers (env : Environment) : ∀ (names : List String) (sensitive : Bool),
    (names.mapM (answer env)).run sensitive =
      (names.map (lookUp env),
        sensitive || names.any fun name => (env.get? name).any (·.isSensitive))
  | [], sensitive => by
    rw [List.mapM_nil, List.any_nil, Bool.or_false]
    rfl
  | name :: names, sensitive => by
    have ih := run_answers env names (sensitive || (env.get? name).any (·.isSensitive))
    rw [List.mapM_cons, List.any_cons, ← Bool.or_assoc, StateT.run_bind]
    show (do
      let (answers, flag) ← (names.mapM (answer env)).run
        (sensitive || (env.get? name).any (·.isSensitive))
      pure (lookUp env name :: answers, flag) : Id _) = _
    rw [ih]
    rfl

/-- **A declaration expands in one pass**, which gives its value and tells whether it is
sensitive. -/
theorem variableOf_eq_expandM {env : Environment} {o : Options} (h : o.expands)
    (key text : String) :
    variableOf env o key text =
      let pass := (Expansion.expandM (answer env) text).run o.sensitive
      { key, value := pass.1, isSensitive := pass.2 } := by
  obtain ⟨tokens, hcut, -⟩ := Expansion.existsUnique_isCut text
  rw [variableOf, if_pos h, refersToSensitive, Expansion.references_eq hcut,
    Expansion.expand_of_isCut hcut, Expansion.expandM_of_isCut hcut, StateT.run_map, run_answers,
    ← Expansion.fill_map]
  rfl

end Stepwise.Declaration
