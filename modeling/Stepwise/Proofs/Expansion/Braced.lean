import Stepwise.Proofs.Expansion.Replacing

/-!
# References between braces

A reference can be written with braces or without. If each one is replaced by itself between braces,
what comes out is cut into the same tokens, but for those that are dropped: nothing that comes to
stand beside a token is drawn into it. So it asks for the same names and expands as the text does.

* `Expansion.braced`: a reference between braces. `Token.normal?`, `normal`: what tokens become.
* `Expansion.Token.normal?_cases`: the three ways in which a token is kept, dropped or put between
  braces.
* `Expansion.Token.Fits.normal`: **one token** fits what follows it then. `AllFit.normal`: all of
  them do.
* `Expansion.isCut_braced`: the tokens of what comes out. `namesOf_normal`, `fill_normal`: they ask
  for the same names, and the same comes of the answers.
* `Expansion.expand_braced`: **braces do not matter.**
-/

namespace Stepwise.Expansion

/-- A reference between braces. -/
def braced (name : String) : String := "$\x7b" ++ name ++ "\x7d"

/-- What a token becomes when references are put between braces: nothing if it is dropped. -/
def Token.normal? : Token → Option Token
  | .other c => some (.other c)
  | .dollar .lone => some (.dollar .lone)
  | .dollar form => form.name?.map fun name => .dollar (.braced name)

/-- What some tokens become when references are put between braces. -/
def normal (tokens : List Token) : List Token :=
  tokens.filterMap Token.normal?

/-! ## What a token becomes -/

/-- A token without a name is dropped or kept as it is, and one with a name is put between
braces. -/
theorem Token.normal?_cases (t : Token) :
    t.normal? = none ∧ t.name? = none ∧ t.kept = [] ∨
    t.normal? = some t ∧ t.name? = none ∧ t.kept = t.text ∨
    ∃ name, t.normal? = some (.dollar (.braced name)) ∧ t.name? = some (String.ofList name) ∧
      t.kept = [] := by
  cases t with
  | other c => exact Or.inr (Or.inl ⟨rfl, rfl, rfl⟩)
  | dollar form =>
    cases form with
    | special c => exact Or.inr (Or.inr ⟨[c], rfl, rfl, rfl⟩)
    | plain name => exact Or.inr (Or.inr ⟨name, rfl, rfl, rfl⟩)
    | braced name => exact Or.inr (Or.inr ⟨name, rfl, rfl, rfl⟩)
    | hollow => exact Or.inl ⟨rfl, rfl, rfl⟩
    | unclosed => exact Or.inl ⟨rfl, rfl, rfl⟩
    | lone => exact Or.inr (Or.inl ⟨rfl, rfl, rfl⟩)

theorem toList_braced (name : List Char) :
    (braced (String.ofList name)).toList = (Token.dollar (.braced name)).text := by
  simp [braced, Token.text, Form.text]

/-- A token with its name put between braces is the text of what it becomes. -/
theorem replaced_braced (t : Token) : t.replaced braced = t.normal?.toList.flatMap Token.text := by
  unfold Token.replaced
  obtain ⟨hnormal, hname, hkept⟩ | ⟨hnormal, hname, hkept⟩ | ⟨name, hnormal, hname, -⟩ :=
    t.normal?_cases
  · rw [hnormal, hname]
    exact hkept
  · rw [hnormal, hname]
    exact hkept.trans (List.append_nil _).symm
  · rw [hnormal, hname]
    exact (toList_braced name).trans (List.append_nil _).symm

theorem textOf_normal (tokens : List Token) :
    textOf (normal tokens) = tokens.flatMap (·.replaced braced) := by
  rw [textOf, normal, List.filterMap_eq_flatMap_toList, List.flatMap_assoc]
  exact congrArg (tokens.flatMap ·) (funext fun t => (replaced_braced t).symm)

/-! ## What fits afterwards -/

/-- A name that a form asks for can stand between braces. -/
theorem Form.Fits.name {form : Form} {rest name : List Char} (h : form.Fits rest)
    (hname : form.name? = some name) : name ≠ [] ∧ '}' ∉ name := by
  cases form with
  | special c =>
    obtain rfl := Option.some.inj hname
    have hspecial : isSpecialChar c := h
    refine ⟨List.cons_ne_nil _ _, fun hmem => ?_⟩
    rw [← List.mem_singleton.mp hmem] at hspecial
    exact absurd hspecial (by decide)
  | plain name =>
    obtain rfl := Option.some.inj hname
    exact ⟨h.1, fun hmem => absurd (h.2.1 '}' hmem) (by decide)⟩
  | braced name =>
    obtain rfl := Option.some.inj hname
    exact h
  | hollow => cases hname
  | unclosed => cases hname
  | lone => cases hname

/-- What follows a lone `$` stays: no other `$` can, since `$` is a name after it. -/
theorem Form.fits_lone_normal : ∀ {tokens : List Token}, Form.lone.Fits (textOf tokens) →
    Form.lone.Fits (textOf (normal tokens))
  | [], h => h
  | .other _ :: _, h => h
  | .dollar _ :: _, h => absurd (by decide) (h '$' rfl).2.1

/-- **One token.** If it fits what follows it, what it becomes fits what that becomes. -/
theorem Token.Fits.normal {t u : Token} {tokens : List Token} (h : t.Fits (textOf tokens))
    (hu : t.normal? = some u) : u.Fits (textOf (normal tokens)) := by
  cases t with
  | other c =>
    obtain rfl := Option.some.inj hu
    exact h
  | dollar form =>
    cases hname : form.name? with
    | some name =>
      have hbraced : (Token.dollar form).normal? = some (.dollar (.braced name)) := by
        cases form <;> cases hname <;> rfl
      obtain rfl := Option.some.inj (hbraced.symm.trans hu)
      exact Form.Fits.name h hname
    | none =>
      cases form with
      | lone =>
        obtain rfl := Option.some.inj hu
        exact Form.fits_lone_normal h
      | hollow => cases hu
      | unclosed => cases hu
      | special c => cases hname
      | plain name => cases hname
      | braced name => cases hname

theorem AllFit.normal : ∀ {tokens : List Token}, AllFit tokens → AllFit (Expansion.normal tokens)
  | [], _ => trivial
  | t :: ts, h => by
    have ih := AllFit.normal h.2
    cases ht : t.normal? with
    | none => rwa [Expansion.normal, List.filterMap_cons_none ht]
    | some u =>
      rw [Expansion.normal, List.filterMap_cons_some ht]
      exact ⟨Token.Fits.normal h.1 ht, ih⟩

/-- **The tokens of a text with its references between braces.** -/
theorem isCut_braced {input : String} {tokens : List Token} (h : IsCut input tokens) :
    IsCut (expand braced input) (normal tokens) where
  text := by rw [expand_of_isCut h, String.toList_ofList, textOf_normal]
  fit := h.fit.normal

/-! ## What is asked for and what comes out -/

theorem namesOf_normal (tokens : List Token) : namesOf (normal tokens) = namesOf tokens := by
  unfold namesOf normal
  rw [List.filterMap_filterMap]
  refine List.filterMap_congr fun t _ => ?_
  obtain ⟨hnormal, hname, -⟩ | ⟨hnormal, -⟩ | ⟨name, hnormal, hname, -⟩ := t.normal?_cases
  · rw [hnormal, hname]
    rfl
  · rw [hnormal]
    rfl
  · rw [hnormal, hname]
    rfl

theorem fill_normal : ∀ (tokens : List Token) (answers : List String),
    fill (normal tokens) answers = fill tokens answers
  | [], _ => rfl
  | t :: ts, answers => by
    have ih := fill_normal ts
    unfold normal at ih ⊢
    obtain ⟨hnormal, hname, hkept⟩ | ⟨hnormal, hname, -⟩ | ⟨name, hnormal, hname, hkept⟩ :=
      t.normal?_cases
    · rw [List.filterMap_cons_none hnormal, ih, fill_cons_of_none hname, hkept, List.nil_append]
    · rw [List.filterMap_cons_some hnormal, fill_cons_of_none hname, fill_cons_of_none hname, ih]
    · have hbraced : (Token.dollar (.braced name)).name? = some (String.ofList name) := rfl
      have hnothing : (Token.dollar (.braced name)).kept = [] := rfl
      rw [List.filterMap_cons_some hnormal]
      cases answers with
      | nil => simp only [fill, hbraced, hnothing, hname, hkept, ih]
      | cons answer answers => rw [fill_cons_of_some hbraced, fill_cons_of_some hname, ih]

/-- **What expands with effects** asks for the same and does the same with the answers. -/
theorem expandM_braced {m : Type → Type u} [Monad m] [LawfulMonad m] (input : String)
    (mapping : String → m String) :
    expandM mapping (expand braced input) = expandM mapping input := by
  obtain ⟨tokens, hcut, -⟩ := existsUnique_isCut input
  rw [expandM_of_isCut (isCut_braced hcut), expandM_of_isCut hcut, namesOf_normal]
  simp only [fill_normal]

/-- **Braces do not matter.** Put between braces, the references of a text are what they were:
whatever the mapping answers, and whatever else it does, the text expands as before. For its tokens
are the same, one by one, each name between braces and those that are dropped left out; so the same
names are asked for, in the same order. -/
theorem expand_braced {m : Type → Type u} [Monad m] [LawfulMonad m] (input : String) :
    (∀ mapping : String → String, expand mapping (expand braced input) = expand mapping input) ∧
    (∀ mapping : String → m String, expandM mapping (expand braced input) = expandM mapping input) ∧
    references (expand braced input) = references input ∧
    ∃ tokens, IsCut input tokens ∧ IsCut (expand braced input) (normal tokens) := by
  obtain ⟨tokens, hcut, -⟩ := existsUnique_isCut input
  refine ⟨fun mapping => ?_, expandM_braced input, ?_, tokens, hcut, isCut_braced hcut⟩
  · rw [expand_eq_run, expandM_braced, ← expand_eq_run]
  · rw [references_eq (isCut_braced hcut), references_eq hcut, namesOf_normal]

/-- Names beside each other and beside letters, a name that is a brace, and braces that hold nothing
or are closed only afterwards. -/
theorem expand_braced_mixed :
    let ask : String → StateM (List String) String :=
      fun name asked => ("$" ++ name, asked ++ [name])
    let text := "é$A$$$\x7bB\x7b\x7d$\x7b\x7dx$ $\x7bC$9_$"
    let bracedText := "é$\x7bA\x7d$\x7b$\x7d$\x7bB\x7b\x7dx$ C$\x7b9\x7d_$"
    expand braced text = bracedText ∧
    (expandM ask bracedText).run [] = (expandM ask text).run [] := by
  intro ask text bracedText
  have htokens : IsCut text [.other 'é', .dollar (.plain ['A']), .dollar (.special '$'),
    .dollar (.braced ['B', '{']), .dollar .hollow, .other 'x', .dollar .lone, .other ' ',
      .dollar .unclosed,
    .other 'C', .dollar (.special '9'), .other '_', .dollar .lone] := by decide
  have hbraced : expand braced text = bracedText := expand_of_isCut htokens braced
  refine ⟨hbraced, ?_⟩
  rw [← hbraced, (expand_braced (m := StateM (List String)) text).2.1 ask]

end Stepwise.Expansion
