import Stepwise.Text.Blank

/-!
# Lines and the white space at their ends

* `Text.trim_eq_self`: a text that neither begins nor ends with white space is trimmed to itself.
* `Text.trim_dropCarriageReturn`: once a line is trimmed, it does not matter how it ended.
* `Text.lines_line`: **the first line of a text** and the lines after it.
-/

namespace Stepwise.Text

/-! ## White space -/

theorem trimEnd_eq_self {cs : List Char} (h : ∀ c, cs.getLast? = some c → isBlank c = false) :
    trimEnd cs = cs := by
  unfold trimEnd
  cases hlast : cs.reverse with
  | nil => exact (List.reverse_eq_nil_iff.mp hlast).symm
  | cons c rest =>
    have hc : isBlank c = false := h c (by rw [← List.head?_reverse, hlast]; rfl)
    rw [List.dropWhile_cons_of_neg (by simp [hc]), ← hlast, List.reverse_reverse]

/-- **Nothing is trimmed** where no white space begins or ends a text. -/
theorem trim_eq_self {cs : List Char} (hfirst : ∀ c, cs.head? = some c → isBlank c = false)
    (hlast : ∀ c, cs.getLast? = some c → isBlank c = false) : trim cs = cs := by
  have hdrop : cs.dropWhile isBlank = cs := by
    cases cs with
    | nil => rfl
    | cons c rest => exact List.dropWhile_cons_of_neg (by simp [hfirst c rfl])
  rw [trim, hdrop, trimEnd_eq_self hlast]

/-- White space at the end does not count. -/
theorem trim_concat {c : Char} (hc : isBlank c = true) (cs : List Char) :
    trim (cs ++ [c]) = trim cs := by
  unfold trim
  rw [List.dropWhile_append]
  split
  · rename_i hempty
    rw [List.isEmpty_iff.mp hempty, List.dropWhile_cons_of_pos hc]
    rfl
  · unfold trimEnd
    rw [List.reverse_concat, List.dropWhile_cons_of_pos hc]

/-- **How a line ended does not matter** once it is trimmed. -/
theorem trim_dropCarriageReturn (line : List Char) :
    trim (dropCarriageReturn line) = trim line := by
  unfold dropCarriageReturn
  split
  · rename_i hlast
    obtain ⟨front, rfl⟩ := List.getLast?_eq_some_iff.mp hlast
    rw [List.dropLast_concat, trim_concat (by decide)]
  · rfl

/-- White space at the beginning does not count. -/
theorem trim_append_of_blank {blanks : List Char} (h : ∀ c ∈ blanks, isBlank c = true)
    (cs : List Char) : trim (blanks ++ cs) = trim cs := by
  unfold trim
  rw [List.dropWhile_append_of_pos h]

/-- A text of white space only is trimmed to nothing. -/
theorem trim_eq_nil {cs : List Char} (h : ∀ c ∈ cs, isBlank c = true) : trim cs = [] := by
  have hnil := trim_append_of_blank h []
  rwa [List.append_nil] at hnil

theorem trimEnd_cons {c : Char} (hc : isBlank c = false) (cs : List Char) :
    trimEnd (c :: cs) = c :: trimEnd cs := by
  have hstop : [c].dropWhile isBlank = [c] := List.dropWhile_cons_of_neg (by simp [hc])
  unfold trimEnd
  rw [List.reverse_cons, List.dropWhile_append]
  split
  · rename_i hempty
    rw [List.isEmpty_iff.mp hempty, hstop]
    rfl
  · rw [List.reverse_concat]

/-- A text that does not begin with white space begins as before. -/
theorem head?_trim_cons {c : Char} (hc : isBlank c = false) (cs : List Char) :
    (trim (c :: cs)).head? = some c := by
  rw [trim, List.dropWhile_cons_of_neg (by simp [hc]), trimEnd_cons hc]
  rfl

/-- Nothing is added to a text. -/
theorem trim_sublist (cs : List Char) : (trim cs).Sublist cs := by
  have hfirst : (cs.dropWhile isBlank).Sublist cs := List.dropWhile_sublist _
  have hlast : (trimEnd (cs.dropWhile isBlank)).Sublist (cs.dropWhile isBlank) := by
    have hreversed := (List.dropWhile_sublist (l := (cs.dropWhile isBlank).reverse) isBlank).reverse
    rwa [List.reverse_reverse] at hreversed
  exact hlast.trans hfirst

/-! ## Lines -/

theorem linesFrom_line {line : List Char} (h : '\n' ∉ line) (front rest : List Char) :
    linesFrom front (line ++ '\n' :: rest) = dropCarriageReturn (front ++ line) :: lines rest := by
  induction line generalizing front with
  | nil => simp [linesFrom, lines]
  | cons c line ih =>
    obtain ⟨hc, hline⟩ := not_or.mp fun hor => h (List.mem_cons.mpr hor)
    rw [List.cons_append, linesFrom, if_neg (Ne.symm hc), ih hline, List.append_assoc]
    rfl

/-- **The first line of a text** ends at the first LF. -/
theorem lines_line {line : List Char} (h : '\n' ∉ line) (rest : List Char) :
    lines (line ++ '\n' :: rest) = dropCarriageReturn line :: lines rest :=
  linesFrom_line h [] rest

theorem linesFrom_last {line : List Char} (h : '\n' ∉ line) (front : List Char) :
    linesFrom front line = if (front ++ line).isEmpty then [] else [front ++ line] := by
  induction line generalizing front with
  | nil => simp [linesFrom]
  | cons c line ih =>
    obtain ⟨hc, hline⟩ := not_or.mp fun hor => h (List.mem_cons.mpr hor)
    rw [linesFrom, if_neg (Ne.symm hc), ih hline, List.append_assoc]
    rfl

/-- A text without an LF is its last line, unless it is empty. -/
theorem lines_last {line : List Char} (h : '\n' ∉ line) :
    lines line = if line.isEmpty then [] else [line] :=
  linesFrom_last h []

end Stepwise.Text
