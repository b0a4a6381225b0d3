import Mathlib.Data.List.TakeWhile
import Mathlib.Tactic.SplitIfs
import Stepwise.Exports
import Stepwise.Proofs.Text.Lines

/-!
# Every value can be exported

A value is written between double quotes with four of its characters escaped. Then it is on one
line, whatever it is, and the quotes are its ends. A file of such lines, with lines of no variable
between them, is read as the variables that were written.

* `Exports.unescape_escape`, `unquote_quoted`: what is written between quotes is read again.
* `Exports.Name`: what a variable that is written may be called.
* `Exports.Line`: a line to be written; `Line.Fits`: it can be told from the lines of other kinds.
* `Exports.ofText?_text`: **one line**, read as what it was written for.
* `Exports.pairs_written`: **a whole file**: the variables of its lines, in their order.
-/

namespace Stepwise.Exports

open Text (isBlank)

/-! ## Values between quotes -/

/-- How a character of a value is written between double quotes. -/
def escapeChar (c : Char) : List Char :=
  if c = '\\' then ['\\', '\\']
  else if c = '"' then ['\\', '"']
  else if c = '\n' then ['\\', 'n']
  else if c = '\t' then ['\\', 't']
  else [c]

/-- How a value is written between double quotes. -/
def escape (value : List Char) : List Char :=
  value.flatMap escapeChar

/-- A value between double quotes. -/
def quoted (value : String) : List Char :=
  '"' :: (escape value.toList ++ ['"'])

theorem unescape_cons_of_ne {c : Char} (h : c ≠ '\\') (rest : List Char) :
    unescape (c :: rest) = c :: unescape rest := by
  rw [unescape]
  rintro _ _ rfl
  exact absurd rfl h

theorem unescape_escapeChar (c : Char) (rest : List Char) :
    unescape (escapeChar c ++ rest) = c :: unescape rest := by
  unfold escapeChar
  split
  · rename_i h; subst h; rfl
  · rename_i hslash
    split
    · rename_i h; subst h; rfl
    · split
      · rename_i h; subst h; rfl
      · split
        · rename_i h; subst h; rfl
        · exact unescape_cons_of_ne hslash rest

/-- **Escapes are undone.** -/
theorem unescape_escape (value : List Char) : unescape (escape value) = value := by
  induction value with
  | nil => rfl
  | cons c value ih => rw [escape, List.flatMap_cons, unescape_escapeChar, ← escape, ih]

/-- An escaped value is on one line. -/
theorem newline_notMem_escape (value : List Char) : '\n' ∉ escape value := by
  intro h
  obtain ⟨c, -, hc⟩ := List.mem_flatMap.mp h
  unfold escapeChar at hc
  split_ifs at hc with _ _ hnewline _
  · simp at hc
  · simp at hc
  · simp at hc
  · simp at hc
  · exact hnewline (List.mem_singleton.mp hc).symm

theorem getLast?_quoted (value : String) : (quoted value).getLast? = some '"' := by
  rw [quoted, ← List.cons_append, List.getLast?_concat]

/-- **What stands between quotes** is read as the value that it was written for. -/
theorem unquote_quoted (value : String) : unquote (quoted value) = value.toList := by
  have hquoted : isQuotedBy '"' (quoted value) = true := by
    rw [isQuotedBy, getLast?_quoted]
    simp [quoted]
  rw [unquote, if_pos hquoted, quoted, List.tail_cons, List.dropLast_concat, unescape_escape]

/-- Quotes keep the white space of a value. -/
theorem trim_quoted (value : String) : Text.trim (quoted value) = quoted value := by
  refine Text.trim_eq_self (fun c hc => ?_) fun c hc => ?_
  · obtain rfl : '"' = c := Option.some.inj hc
    decide
  · rw [getLast?_quoted] at hc
    obtain rfl : '"' = c := Option.some.inj hc
    decide

/-! ## Lines to be written -/

/-- What a variable that is written may be called. -/
structure Name (key : String) : Prop where
  ne_empty : key ≠ ""
  first : ∀ c, key.toList.head? = some c → isBlank c = false
  last : ∀ c, key.toList.getLast? = some c → isBlank c = false
  equals : '=' ∉ key.toList
  newline : '\n' ∉ key.toList

instance (key : String) : Decidable (Name key) :=
  decidable_of_iff (key ≠ "" ∧ key.toList.head?.all (!isBlank ·) ∧
    key.toList.getLast?.all (!isBlank ·) ∧
      '=' ∉ key.toList ∧ '\n' ∉ key.toList) <| by
    simp only [Option.all_eq_true, Bool.not_eq_true']
    exact ⟨fun ⟨ne_empty, first, last, equals, newline⟩ => ⟨ne_empty, first, last, equals, newline⟩,
      fun h => ⟨h.ne_empty, h.first, h.last, h.equals, h.newline⟩⟩

/-- A line to be written. -/
inductive Line where
  /-- A variable after the word `export`. -/
  | exported (key value : String)
  /-- A variable alone. -/
  | bare (key value : String)
  /-- A line of no variable. -/
  | other (text : List Char)

namespace Line

/-- The characters of a line. -/
def text : Line → List Char
  | .exported key value => exportWord ++ (key.toList ++ '=' :: quoted value)
  | .bare key value => key.toList ++ '=' :: quoted value
  | .other text => text

/-- The variable that a line is written for. -/
def pair? : Line → Option (String × String)
  | .exported key value => some (key, value)
  | .bare key value => some (key, value)
  | .other _ => none

/-- The line is what it seems to be: its variable may be called so, and without `export` before it
the name is not taken for a comment or for that word; a line of no variable is blank, a comment, or
without `=`. -/
def Fits : Line → Prop
  | .exported key _ => Name key
  | .bare key _ => Name key ∧ key.toList.head? ≠ some '#' ∧ ¬ exportWord <+: key.toList
  | .other text => '\n' ∉ text ∧
    ((∀ c ∈ text, isBlank c = true) ∨
      (∃ blanks comment, text = blanks ++ '#' :: comment ∧ ∀ c ∈ blanks, isBlank c = true) ∨
      '=' ∉ text)

end Line

/-! ## One line -/

/-- The variable of a line as it stands in a file. -/
def ofText? (line : List Char) : Option (String × String) :=
  if isCandidate (Text.trim line) then ofLine? (Text.trim line) else none

theorem pairs_eq (content : String) :
    pairs content = (Text.lines content.toList).filterMap ofText? := by
  rw [pairs, List.filterMap_filter, List.filterMap_map]
  rfl

theorem ofText?_dropCarriageReturn (line : List Char) :
    ofText? (Text.dropCarriageReturn line) = ofText? line := by
  rw [ofText?, ofText?, Text.trim_dropCarriageReturn]

/-- **A name, `=` and a value between quotes** are a variable. -/
theorem ofLine?_assignment {key value : String} (hkey : Name key) {line : List Char}
    (h : dropExport line = key.toList ++ '=' :: quoted value) :
    ofLine? line = some (key, value) := by
  have hname : ∀ c ∈ key.toList, (c != '=') = true := fun c hc =>
    bne_iff_ne.mpr fun heq => hkey.equals (heq ▸ hc)
  have htake : (key.toList ++ '=' :: quoted value).takeWhile (· != '=') = key.toList := by
    rw [List.takeWhile_append_of_pos hname, List.takeWhile_cons_of_neg (by simp), List.append_nil]
  have hdrop : (key.toList ++ '=' :: quoted value).dropWhile (· != '=') = '=' :: quoted value := by
    rw [List.dropWhile_append_of_pos hname, List.dropWhile_cons_of_neg (by simp)]
  have hempty : key.toList.isEmpty = false := by
    simpa using hkey.ne_empty
  unfold ofLine?
  simp only [h, htake, hdrop, Text.trim_eq_self hkey.first hkey.last, hempty, trim_quoted,
    unquote_quoted, String.ofList_toList]
  rfl

theorem getLast?_assignment (front : List Char) (value : String) :
    (front ++ '=' :: quoted value).getLast? = some '"' := by
  have hend : front ++ '=' :: quoted value =
      (front ++ '=' :: '"' :: escape value.toList) ++ ['"'] := by
    simp [quoted]
  rw [hend, List.getLast?_concat]

/-- A line that ends with a quote and begins with no white space and no comment is a candidate as it
is. -/
theorem ofText?_of_head {line : List Char} {c : Char} (hhead : line.head? = some c)
    (hblank : isBlank c = false) (hcomment : c ≠ '#') (hlast : line.getLast? = some '"') :
    ofText? line = ofLine? line := by
  have htrim : Text.trim line = line := by
    refine Text.trim_eq_self (fun d hd => ?_) fun d hd => ?_
    · obtain rfl : c = d := Option.some.inj (hhead.symm.trans hd)
      exact hblank
    · obtain rfl : '"' = d := Option.some.inj (hlast.symm.trans hd)
      decide
  have hcandidate : isCandidate line = true := by
    cases line with
    | nil => exact absurd hhead nofun
    | cons d rest =>
      obtain rfl : d = c := Option.some.inj hhead
      simpa [isCandidate] using hcomment
  rw [ofText?, htrim, if_pos hcandidate]

/-- The word `export` is not read into a name that does not begin with it. -/
theorem dropExport_assignment {key : List Char} (h : ¬ exportWord <+: key) (value : List Char) :
    dropExport (key ++ '=' :: value) = key ++ '=' :: value := by
  have hnot : ¬ exportWord <+: key ++ '=' :: value := by
    intro hprefix
    rcases List.prefix_or_prefix_of_prefix hprefix (List.prefix_append key _) with
      hword | ⟨rest, hrest⟩
    · exact h hword
    · -- the word would go on with `=` where the name ends
      cases rest with
      | nil => exact h (by simp [← hrest])
      | cons c rest =>
        rw [← hrest, List.prefix_append_right_inj, List.cons_prefix_cons] at hprefix
        have hmem : '=' ∈ exportWord := by simp [← hrest, hprefix.1]
        exact absurd hmem (by decide)
  rw [dropExport, if_neg (by rwa [List.isPrefixOf_iff_prefix])]

/-- A line without `=` has no variable. -/
theorem ofLine?_of_notMem {line : List Char} (h : '=' ∉ line) : ofLine? line = none := by
  have hrest : (dropExport line).Sublist line := by
    unfold dropExport
    split
    · exact List.drop_sublist _ _
    · exact List.Sublist.refl _
  have hnil : (dropExport line).dropWhile (· != '=') = [] :=
    List.dropWhile_eq_nil_iff.mpr fun c hc => bne_iff_ne.mpr fun heq => h (heq ▸ hrest.mem hc)
  unfold ofLine?
  simp only [hnil]

/-- **A line is read as what it was written for.** -/
theorem ofText?_text {line : Line} (h : line.Fits) : ofText? line.text = line.pair? := by
  cases line with
  | exported key value =>
    have hkey : Name key := h
    have hdrop : dropExport (Line.exported key value).text = key.toList ++ '=' :: quoted value := by
      have hword : exportWord.isPrefixOf (Line.exported key value).text = true :=
        List.isPrefixOf_iff_prefix.mpr (List.prefix_append _ _)
      rw [dropExport, if_pos hword]
      exact List.drop_left
    have hlast : (Line.exported key value).text.getLast? = some '"' := by
      rw [Line.text, ← List.append_assoc]
      exact getLast?_assignment _ value
    rw [ofText?_of_head (c := 'e') rfl (by decide) (by decide) hlast]
    exact ofLine?_assignment hkey hdrop
  | bare key value =>
    obtain ⟨hkey, hcomment, hword⟩ : Name key ∧ _ := h
    obtain ⟨c, rest, hc⟩ : ∃ c rest, key.toList = c :: rest :=
      List.exists_cons_of_ne_nil (by simpa using hkey.ne_empty)
    have hhead : (Line.bare key value).text.head? = some c := by
      rw [Line.text, hc]
      rfl
    have hblank : isBlank c = false := hkey.first c (by rw [hc]; rfl)
    have hsharp : c ≠ '#' := fun heq => hcomment (by rw [hc, heq]; rfl)
    rw [ofText?_of_head hhead hblank hsharp (getLast?_assignment key.toList value)]
    exact ofLine?_assignment hkey (dropExport_assignment hword _)
  | other text =>
    obtain ⟨-, hother⟩ : '\n' ∉ text ∧ _ := h
    show (if isCandidate (Text.trim text) then ofLine? (Text.trim text) else none) = none
    rcases hother with hblank | ⟨blanks, comment, rfl, hblanks⟩ | hequals
    · rw [Text.trim_eq_nil hblank]
      rfl
    · have hcomment : isCandidate (Text.trim (blanks ++ '#' :: comment)) = false := by
        rw [Text.trim_append_of_blank hblanks, isCandidate, Text.head?_trim_cons (by decide)]
        simp
      rw [hcomment]
      rfl
    · have hnone : ofLine? (Text.trim text) = none :=
        ofLine?_of_notMem fun hmem => hequals ((Text.trim_sublist text).mem hmem)
      rw [hnone, ite_self]

/-! ## A whole file -/

/-- How a line ends. -/
inductive LineEnd where
  | lf
  | crlf

/-- The characters that end a line. -/
def LineEnd.text : LineEnd → List Char
  | .lf => ['\n']
  | .crlf => ['\r', '\n']

/-- The file of some lines with their ends, and of a last line without one if there is such a
line. -/
def written (lines : List (Line × LineEnd)) (last : Option Line) : String :=
  String.ofList (lines.flatMap (fun p => p.1.text ++ p.2.text) ++ last.elim [] Line.text)

theorem Line.newline_notMem_text {line : Line} (h : line.Fits) : '\n' ∉ line.text := by
  have hvalue : ∀ value, '\n' ∉ '=' :: quoted value := fun value => by
    simp [quoted, newline_notMem_escape]
  cases line with
  | exported key value =>
    have hkey : Name key := h
    have hword : '\n' ∉ exportWord := by decide
    simp only [Line.text, List.mem_append, not_or]
    exact ⟨hword, hkey.newline, hvalue value⟩
  | bare key value =>
    simp only [Line.text, List.mem_append, not_or]
    exact ⟨h.1.newline, hvalue value⟩
  | other text => exact h.1

/-- The first line of a file, however it ends. -/
theorem filterMap_lines_first {line : Line} (h : line.Fits) (ending : LineEnd) (rest : List Char) :
    (Text.lines (line.text ++ ending.text ++ rest)).filterMap ofText? =
      line.pair?.toList ++ (Text.lines rest).filterMap ofText? := by
  have hnewline := line.newline_notMem_text h
  have hread : ∀ first, '\n' ∉ first → ofText? first = line.pair? →
      (Text.lines (first ++ '\n' :: rest)).filterMap ofText? =
        line.pair?.toList ++ (Text.lines rest).filterMap ofText? := by
    intro first hfirst hvariable
    rw [Text.lines_line hfirst, List.filterMap_cons, ofText?_dropCarriageReturn, hvariable]
    cases line.pair? <;> rfl
  cases ending with
  | lf =>
    rw [LineEnd.text, List.append_assoc]
    exact hread line.text hnewline (ofText?_text h)
  | crlf =>
    have hend : line.text ++ LineEnd.text .crlf ++ rest =
        (line.text ++ ['\r']) ++ '\n' :: rest := by
      simp [LineEnd.text]
    rw [hend]
    refine hread _ (by simp [hnewline]) ?_
    rw [ofText?, Text.trim_concat (by decide)]
    exact ofText?_text h

/-- The last line of a file, which nothing ends. -/
theorem filterMap_lines_last {last : Option Line} (h : ∀ line ∈ last, line.Fits) :
    (Text.lines (last.elim [] Line.text)).filterMap ofText? = last.toList.filterMap Line.pair? := by
  cases last with
  | none => rfl
  | some line =>
    have hfits : line.Fits := h line rfl
    have hread : ofText? line.text = line.pair? := ofText?_text hfits
    show (Text.lines line.text).filterMap ofText? = [line].filterMap Line.pair?
    rw [Text.lines_last (line.newline_notMem_text hfits)]
    split
    · -- an empty line is passed over, whatever it was written for
      rename_i hempty
      have hnone : line.pair? = none := by
        rw [← hread, List.isEmpty_iff.mp hempty]
        rfl
      rw [List.filterMap_cons_none hnone]
      rfl
    · rw [List.filterMap_cons, List.filterMap_cons, hread]
      rfl

/-- **Every value can be exported.** Take lines that fit, each of which ends in one way or the
other, and perhaps a last line that nothing ends. Their file is read as the variables that the lines
were written for, in the order of the lines, also where one name is written again and whatever the
values are. -/
theorem pairs_written (lines : List (Line × LineEnd)) (last : Option Line)
    (h : ∀ line ∈ lines.map (·.1) ++ last.toList, line.Fits) :
    pairs (written lines last) = (lines.map (·.1) ++ last.toList).filterMap Line.pair? := by
  rw [pairs_eq, written, String.toList_ofList]
  induction lines with
  | nil => exact filterMap_lines_last fun line hline => h line (by simpa using hline)
  | cons p lines ih =>
    obtain ⟨line, ending⟩ := p
    obtain ⟨hline, hlines⟩ := List.forall_mem_cons.mp h
    have hfile : ((line, ending) :: lines).flatMap (fun p => p.1.text ++ p.2.text) ++
        last.elim [] Line.text = line.text ++ ending.text ++
          (lines.flatMap (fun p => p.1.text ++ p.2.text) ++ last.elim [] Line.text) := by
      rw [List.flatMap_cons, List.append_assoc]
    rw [hfile, filterMap_lines_first hline, ih hlines, List.map_cons, List.cons_append,
      List.filterMap_cons]
    cases line.pair? <;> rfl

/-- A value with line breaks, quotes and a backslash at its end, one that looks like a line of its
own, and a name that is a comment without `export`. -/
theorem pairs_written_hostile :
    let lines : List (Line × LineEnd) := [
      (.bare "A" "x\r\ny\"\\", .crlf), (.other "  # B=1".toList, .lf), (.other [], .crlf),
      (.exported "#C" " D=\t' ", .lf), (.other "no variable".toList, .lf), (.bare "A" "", .crlf)]
    pairs (written lines (some (.exported "export E" "F"))) =
      [("A", "x\r\ny\"\\"), ("#C", " D=\t' "), ("A", ""), ("export E", "F")] := by
  intro lines
  have hA : Line.Fits (.bare "A" "") := ⟨by decide, by decide, by decide⟩
  have hcomment : Line.Fits (.other "  # B=1".toList) :=
    ⟨by decide, .inr (.inl ⟨[' ', ' '], " B=1".toList, by decide, List.all_eq_true.mp (by decide)⟩)⟩
  have hblank : Line.Fits (.other []) := ⟨by decide, .inl nofun⟩
  have hC : Line.Fits (.exported "#C" " D=\t' ") := show Name "#C" by decide
  have hwithout : Line.Fits (.other "no variable".toList) := ⟨by decide, .inr (.inr (by decide))⟩
  have hE : Line.Fits (.exported "export E" "F") := show Name "export E" by decide
  refine pairs_written lines (some (.exported "export E" "F")) ?_
  simp only [lines, List.map_cons, List.map_nil, Option.toList_some, List.cons_append,
    List.nil_append, List.forall_mem_cons]
  exact ⟨hA, hcomment, hblank, hC, hwithout, hA, hE, nofun⟩

end Stepwise.Exports
