import Mathlib.Data.List.TakeWhile
import Mathlib.Tactic.SplitIfs

/-!
# The grammar of references

A text is cut into tokens: a `$` with what it begins, or any other character. Which form a `$` has
is told by what follows it, and each form has a condition on that. The conditions exclude each other
and leave nothing out.

* `Expansion.Form`: what a `$` begins. `Form.Fits`: when it does.
* `Expansion.Form.read`: the form, read from what follows the `$`. `Form.fits_read`, `read_of_fits`:
  it is the one form that fits.
* `Expansion.IsCut`: some tokens are a text, and each fits what follows it.
* `Expansion.existsUnique_isCut`: **a text is cut in one way.**
-/

namespace Stepwise.Expansion

/-! ## Forms and tokens -/

/-- A character that is a name of its own after `$`. -/
def isSpecialChar (c : Char) : Bool :=
  c ∈ ['*', '#', '$', '@', '!', '?', '-'] || c.isDigit

/-- A character of a plain name: an ASCII letter, a digit or `_`. -/
def isNameChar (c : Char) : Bool :=
  c.isAlphanum || c = '_'

/-- What a `$` begins. -/
inductive Form where
  /-- A name of one special character. -/
  | special (c : Char)
  /-- A plain name. -/
  | plain (name : List Char)
  /-- A name between braces. -/
  | braced (name : List Char)
  /-- Braces with nothing between them. -/
  | hollow
  /-- A brace that nothing closes. -/
  | unclosed
  /-- Nothing. -/
  | lone
  deriving DecidableEq

namespace Form

/-- The characters of a form after its `$`. -/
def text : Form → List Char
  | .special c => [c]
  | .plain name => name
  | .braced name => '{' :: (name ++ ['}'])
  | .hollow => ['{', '}']
  | .unclosed => ['{']
  | .lone => []

/-- The name that a form asks for. -/
def name? : Form → Option (List Char)
  | .special c => some [c]
  | .plain name => some name
  | .braced name => some name
  | _ => none

/-- What a form without a name becomes. -/
def kept : Form → List Char
  | .lone => ['$']
  | _ => []

/-- A `$` has this form if these characters follow the form. A plain name goes as far as it can and
does not begin with a digit, the name between braces goes up to the first `}`, and no other form may
begin where a `$` is alone. -/
def Fits : Form → List Char → Prop
  | .special c, _ => isSpecialChar c
  | .plain name, rest => name ≠ [] ∧ (∀ c ∈ name, isNameChar c) ∧ (∀ c ∈ name.head?, ¬ c.isDigit) ∧
      ∀ c ∈ rest.head?, ¬ isNameChar c
  | .braced name, _ => name ≠ [] ∧ '}' ∉ name
  | .hollow, _ => True
  | .unclosed, rest => '}' ∉ rest
  | .lone, rest => ∀ c ∈ rest.head?, c ≠ '{' ∧ ¬ isSpecialChar c ∧ ¬ isNameChar c

instance : ∀ (form : Form) (rest : List Char), Decidable (form.Fits rest)
  | .special c, _ => inferInstanceAs (Decidable (isSpecialChar c = true))
  | .plain name, rest =>
    decidable_of_iff (name ≠ [] ∧ name.all isNameChar ∧ name.head?.all (!·.isDigit) ∧
      rest.head?.all (!isNameChar ·)) (by simp [Fits, Option.all_eq_true])
  | .braced name, _ => inferInstanceAs (Decidable (name ≠ [] ∧ '}' ∉ name))
  | .hollow, _ => .isTrue trivial
  | .unclosed, rest => inferInstanceAs (Decidable ('}' ∉ rest))
  | .lone, rest => decidable_of_iff
      (rest.head?.all fun c => c ≠ '{' && !isSpecialChar c && !isNameChar c)
      (by simp [Fits, Option.all_eq_true, and_assoc])

/-- The form of a `$`, read from what follows it. -/
def read : List Char → Form
  | [] => .lone
  | c :: rest =>
    if c = '{' then
      let name := rest.takeWhile (· != '}')
      if '}' ∈ rest then (if name = [] then .hollow else .braced name) else .unclosed
    else if isSpecialChar c then .special c
    else if isNameChar c then .plain ((c :: rest).takeWhile isNameChar)
    else .lone

end Form

/-- A piece of a text. -/
inductive Token where
  /-- A character other than `$`. -/
  | other (c : Char)
  /-- A `$` with what it begins. -/
  | dollar (form : Form)
  deriving DecidableEq

namespace Token

/-- The characters of a token. -/
def text : Token → List Char
  | .other c => [c]
  | .dollar form => '$' :: form.text

/-- The name that a token asks for. -/
def name? : Token → Option String
  | .other _ => none
  | .dollar form => form.name?.map String.ofList

/-- What a token without a name becomes. -/
def kept : Token → List Char
  | .other c => [c]
  | .dollar form => form.kept

/-- What a token becomes when its name is replaced by what `mapping` says of it. -/
def replaced (mapping : String → String) (t : Token) : List Char :=
  match t.name? with
  | none => t.kept
  | some name => (mapping name).toList

/-- A text goes on with this token if these characters follow the token. -/
def Fits : Token → List Char → Prop
  | .other c, _ => c ≠ '$'
  | .dollar form, rest => form.Fits rest

instance : ∀ (t : Token) (rest : List Char), Decidable (t.Fits rest)
  | .other c, _ => inferInstanceAs (Decidable (c ≠ '$'))
  | .dollar form, rest => inferInstanceAs (Decidable (form.Fits rest))

end Token

/-- The characters of some tokens. -/
def textOf (tokens : List Token) : List Char :=
  tokens.flatMap Token.text

/-- Each token fits what follows it. -/
def AllFit : List Token → Prop
  | [] => True
  | t :: ts => t.Fits (textOf ts) ∧ AllFit ts

instance decidableAllFit : ∀ tokens : List Token, Decidable (AllFit tokens)
  | [] => .isTrue trivial
  | t :: ts =>
    have := decidableAllFit ts
    inferInstanceAs (Decidable (t.Fits (textOf ts) ∧ AllFit ts))

/-- A text is cut into tokens: they are its characters, and each fits what follows it. -/
structure IsCut (input : String) (tokens : List Token) : Prop where
  text : textOf tokens = input.toList
  fit : AllFit tokens

instance (input : String) (tokens : List Token) : Decidable (IsCut input tokens) :=
  decidable_of_iff (textOf tokens = input.toList ∧ AllFit tokens)
    ⟨fun ⟨text, fit⟩ => ⟨text, fit⟩, fun h => ⟨h.text, h.fit⟩⟩

/-- The names that some tokens ask for, in order. -/
def namesOf (tokens : List Token) : List String :=
  tokens.filterMap Token.name?

theorem textOf_cons (t : Token) (ts : List Token) : textOf (t :: ts) = t.text ++ textOf ts :=
  List.flatMap_cons

/-! ## One form -/

/-- The only special characters that a plain name may hold are digits. -/
theorem isDigit_of_isSpecialChar {c : Char} (hspecial : isSpecialChar c) (hname : isNameChar c) :
    c.isDigit := by
  rcases Bool.or_eq_true_iff.mp hspecial with hmem | hdigit
  · simp only [List.mem_cons, List.not_mem_nil, or_false, decide_eq_true_eq] at hmem
    rcases hmem with rfl | rfl | rfl | rfl | rfl | rfl | rfl <;> exact absurd hname (by decide)
  · exact hdigit

/-- The longest run of characters of a kind ends before a character of another kind. -/
theorem takeWhile_append_of_head? {p : Char → Bool} {front rest : List Char}
    (hfront : ∀ c ∈ front, p c)
    (hrest : ∀ c ∈ rest.head?, ¬ p c) : (front ++ rest).takeWhile p = front := by
  rw [List.takeWhile_append_of_pos hfront]
  cases rest with
  | nil => rw [List.takeWhile_nil, List.append_nil]
  | cons c rest => rw [List.takeWhile_cons_of_neg (hrest c rfl), List.append_nil]

/-- A name goes up to the first closing brace. -/
theorem takeWhile_of_notMem {name : List Char} (h : '}' ∉ name) (rest : List Char) :
    (name ++ '}' :: rest).takeWhile (· != '}') = name := by
  refine takeWhile_append_of_head? (fun c hc => bne_iff_ne.mpr fun heq => h (heq ▸ hc))
    fun c hc => ?_
  rw [← Option.some.inj hc]
  decide

/-- What stands before the first closing brace. -/
theorem eq_append_of_mem {cs : List Char} (h : '}' ∈ cs) :
    ∃ rest, cs = cs.takeWhile (· != '}') ++ '}' :: rest := by
  cases hrest : cs.dropWhile (· != '}') with
  | nil => exact absurd rfl (bne_iff_ne.mp (List.dropWhile_eq_nil_iff.mp hrest '}' h))
  | cons c rest =>
    obtain rfl : c = '}' := by
      have hhead := List.head?_dropWhile_not (· != '}') cs
      rw [hrest] at hhead
      simpa using hhead
    exact ⟨rest, by rw [← hrest, List.takeWhile_append_dropWhile]⟩

namespace Form

theorem read_cons (c : Char) (rest : List Char) : read (c :: rest) =
    if c = '{' then
      if '}' ∈ rest then
        if rest.takeWhile (· != '}') = [] then hollow else braced (rest.takeWhile (· != '}'))
      else unclosed
    else if isSpecialChar c then special c
    else if isNameChar c then plain ((c :: rest).takeWhile isNameChar)
    else lone := rfl

/-- **The form that was read fits.** -/
theorem fits_read (cs : List Char) : ∃ rest, cs = (read cs).text ++ rest ∧ (read cs).Fits rest := by
  cases cs with
  | nil => exact ⟨[], rfl, nofun⟩
  | cons c cs =>
    rw [read_cons]
    split_ifs with hbrace hclosed hname hspecial hplain
    · obtain ⟨rest, hrest⟩ := eq_append_of_mem hclosed
      rw [hname] at hrest
      exact ⟨rest, by rw [hbrace, hrest]; rfl, trivial⟩
    · obtain ⟨rest, hrest⟩ := eq_append_of_mem hclosed
      refine ⟨rest, ?_, hname, fun hmem => ?_⟩
      · rw [hbrace, text, List.cons_append, List.append_assoc, List.singleton_append, ← hrest]
      · exact absurd rfl (bne_iff_ne.mp (List.mem_takeWhile_imp (p := (· != '}')) hmem))
    · exact ⟨cs, by rw [hbrace]; rfl, hclosed⟩
    · exact ⟨cs, rfl, hspecial⟩
    · refine ⟨(c :: cs).dropWhile isNameChar, (List.takeWhile_append_dropWhile).symm,
        ?_, ?_, ?_, ?_⟩
      · rw [List.takeWhile_cons_of_pos hplain]
        exact List.cons_ne_nil _ _
      · exact fun d hd => List.mem_takeWhile_imp hd
      · intro d hd hdigit
        rw [List.takeWhile_cons_of_pos hplain] at hd
        obtain rfl : c = d := Option.some.inj hd
        exact hspecial (by simp [isSpecialChar, hdigit])
      · intro d hd
        have hhead := List.head?_dropWhile_not isNameChar (c :: cs)
        rw [hd] at hhead
        simpa using hhead
    · refine ⟨c :: cs, rfl, fun d hd => ?_⟩
      obtain rfl : c = d := Option.some.inj hd
      exact ⟨hbrace, hspecial, hplain⟩

/-- A plain name begins as no other form does. -/
theorem Fits.head_plain {c : Char} {cs rest : List Char} (h : (plain (c :: cs)).Fits rest) :
    c ≠ '{' ∧ ¬ isSpecialChar c ∧ isNameChar c := by
  obtain ⟨-, hname, hdigit, -⟩ : c :: cs ≠ [] ∧ _ := h
  have hc : isNameChar c := hname c List.mem_cons_self
  exact ⟨fun heq => absurd (heq ▸ hc) (by decide),
    fun hs => hdigit c rfl (isDigit_of_isSpecialChar hs hc), hc⟩

theorem Fits.takeWhile_plain {name rest : List Char} (h : (plain name).Fits rest) :
    (name ++ rest).takeWhile isNameChar = name :=
  takeWhile_append_of_head? h.2.1 h.2.2.2

/-- **A form that fits is read.** -/
theorem read_of_fits {form : Form} {rest : List Char} (h : form.Fits rest) :
    read (form.text ++ rest) = form := by
  cases form with
  | special c =>
    have hspecial : isSpecialChar c := h
    have hbrace : c ≠ '{' := fun hc => absurd (hc ▸ hspecial) (by decide)
    rw [text, List.singleton_append, read_cons, if_neg hbrace, if_pos hspecial]
  | plain name =>
    obtain ⟨c, cs, rfl⟩ := List.exists_cons_of_ne_nil h.1
    obtain ⟨hbrace, hspecial, hc⟩ := h.head_plain
    rw [text, List.cons_append, read_cons, if_neg hbrace, if_neg hspecial, if_pos hc,
      ← List.cons_append, h.takeWhile_plain]
  | braced name =>
    obtain ⟨hne, hname⟩ : name ≠ [] ∧ '}' ∉ name := h
    rw [text, List.cons_append, List.append_assoc, List.singleton_append, read_cons, if_pos rfl,
      if_pos (by simp), takeWhile_of_notMem hname, if_neg hne]
  | hollow =>
    have htake : ('}' :: rest).takeWhile (· != '}') = [] := List.takeWhile_cons_of_neg (by decide)
    rw [text, List.cons_append, List.singleton_append, read_cons, if_pos rfl, if_pos (by simp),
      if_pos htake]
  | unclosed =>
    have hrest : '}' ∉ rest := h
    rw [text, List.singleton_append, read_cons, if_pos rfl, if_neg hrest]
  | lone =>
    have hrest : ∀ c ∈ rest.head?, c ≠ '{' ∧ ¬ isSpecialChar c ∧ ¬ isNameChar c := h
    cases rest with
    | nil => rfl
    | cons c rest =>
      obtain ⟨hbrace, hspecial, hname⟩ := hrest c rfl
      rw [text, List.nil_append, read_cons, if_neg hbrace, if_neg hspecial, if_neg hname]

end Form

/-! ## A whole text -/

/-- The tokens of a text that fit are the only ones. -/
theorem eq_of_textOf_eq :
    ∀ {ts us : List Token}, AllFit ts → AllFit us → textOf ts = textOf us → ts = us
  | [], [], _, _, _ => rfl
  | [], .other _ :: _, _, _, h => absurd h nofun
  | [], .dollar _ :: _, _, _, h => absurd h nofun
  | .other _ :: _, [], _, _, h => absurd h nofun
  | .dollar _ :: _, [], _, _, h => absurd h nofun
  | .other c :: ts, .other d :: us, hts, hus, h => by
    obtain ⟨rfl, hrest⟩ := List.cons.inj h
    rw [eq_of_textOf_eq hts.2 hus.2 hrest]
  | .other c :: ts, .dollar _ :: us, hts, _, h => absurd (List.cons.inj h).1 hts.1
  | .dollar _ :: ts, .other c :: us, _, hus, h => absurd (List.cons.inj h).1.symm hus.1
  | .dollar f :: ts, .dollar g :: us, hts, hus, h => by
    have hafter : f.text ++ textOf ts = g.text ++ textOf us := (List.cons.inj h).2
    obtain rfl : f = g := by rw [← Form.read_of_fits hts.1, hafter, Form.read_of_fits hus.1]
    rw [eq_of_textOf_eq hts.2 hus.2 (List.append_cancel_left hafter)]

/-- A text has tokens. -/
theorem exists_textOf_eq : ∀ cs : List Char, ∃ ts, textOf ts = cs ∧ AllFit ts
  | [] => ⟨[], rfl, trivial⟩
  | c :: cs => by
    by_cases hc : c = '$'
    · obtain ⟨rest, hrest, hfits⟩ := Form.fits_read cs
      have hlength : rest.length ≤ cs.length := by rw [hrest, List.length_append]; omega
      obtain ⟨ts, hts, hall⟩ := exists_textOf_eq rest
      refine ⟨.dollar (Form.read cs) :: ts, ?_, by rw [Token.Fits, hts]; exact hfits, hall⟩
      rw [textOf_cons, hts, hc, Token.text, List.cons_append, ← hrest]
    · obtain ⟨ts, hts, hall⟩ := exists_textOf_eq cs
      exact ⟨.other c :: ts, by rw [textOf_cons, hts]; rfl, hc, hall⟩
termination_by cs => cs.length

/-- **A text is cut in one way.** -/
theorem existsUnique_isCut (input : String) : ∃ tokens, IsCut input tokens ∧
    ∀ others, IsCut input others → others = tokens := by
  obtain ⟨tokens, htext, hfit⟩ := exists_textOf_eq input.toList
  exact ⟨tokens, ⟨htext, hfit⟩,
    fun others h => eq_of_textOf_eq h.fit hfit (h.text.trans htext.symm)⟩

end Stepwise.Expansion
