import Stepwise.Commands.Envs
import Stepwise.Proofs.Resolution
import Stepwise.Proofs.Secrets.Lines
import Stepwise.Proofs.Secrets.Lossless

/-!
# The lines that are printed for declarations

A declaration has one line of the output unless its line has a newline of its own. The keys are
shown as they are, and so is what no secret covers of a value; of a span, all newlines but one at
its end are shown.

* `Redaction.newline_mem_redact_iff`: **a redacted string has a newline** iff some newline is not
  the end of a span.
* `Redaction.length_linesOf_append`, `linesOf_line`: the lines of a string, line after line.
* `CommandLine.linesOf_printed`, `length_linesOf_printed_iff`: **what is printed falls into the
  lines that it was made of** if none of them has a newline, and otherwise into more.
* `Command.OneLine`: the commands that have one line.
* `CommandLine.lines_eq_ok`: the command prints the history that its declarations make.
* `CommandLine.line_per_declaration`: **there is one line for each declaration iff each of their
  commands has one.**
-/

namespace Stepwise

namespace Redaction

variable {secrets : List Bytes} {input : Bytes}

/-! ## Newlines that are shown -/

theorem newline_mem_shown_hidden_iff {s : Span} :
    newline ∈ Piece.shown input (.hidden s) ↔ newline ∈ (s.bytes input).dropLast := by
  simp only [Piece.shown, List.mem_append, newline_notMem_marker, false_or, List.mem_flatMap,
    List.mem_filter, decide_eq_true_eq, List.mem_cons, or_false]
  constructor
  · rintro ⟨b, ⟨hb, rfl⟩, -⟩
    exact hb
  · exact fun h => ⟨_, ⟨h, rfl⟩, rfl⟩

/-- The bytes of a span before its last one, by their positions. -/
theorem mem_dropLast_bytes_iff {s : Span} (hs : IsSpan secrets input s) {b : UInt8} :
    b ∈ (s.bytes input).dropLast ↔ ∃ i, s.Holds i ∧ i + 1 ≠ s.stop ∧ input[i]? = some b := by
  have hlt := hs.start_lt
  have hle := hs.stop_le
  have hlength : min (s.stop - s.start) (input.length - s.start) - 1 = s.stop - s.start - 1 := by
    omega
  have hmin : min (s.stop - s.start - 1) (s.stop - s.start) = s.stop - s.start - 1 := by omega
  rw [Span.bytes, List.dropLast_eq_take, List.length_take, List.length_drop, hlength,
    List.take_take, hmin, List.mem_iff_getElem?]
  simp only [List.getElem?_take, List.getElem?_drop]
  constructor
  · rintro ⟨k, hk⟩
    split at hk
    · exact ⟨s.start + k, ⟨by omega, by omega⟩, by omega, hk⟩
    · cases hk
  · rintro ⟨i, hi, hne, hb⟩
    have hstart := hi.1
    have hstop := hi.2
    exact ⟨i - s.start, by rw [if_pos (by omega), Nat.add_sub_cancel' hstart, hb]⟩

/-- **A redacted string has a newline** iff some newline is not the last byte of a span. -/
theorem newline_mem_redact_iff : newline ∈ redact secrets input ↔
    ∃ i, input[i]? = some newline ∧ ∀ s, IsSpan secrets input s → s.stop ≠ i + 1 := by
  obtain ⟨ps, htiles, hout⟩ := exists_tiles secrets input
  rw [hout, List.mem_flatMap]
  constructor
  · rintro ⟨piece, hpiece, hshown⟩
    cases piece with
    | kept i =>
      have hb : input[i]? = some newline := by simpa [Piece.shown] using hshown
      refine ⟨i, hb, fun s hs hstop => (htiles.sound.1 i hpiece).2 ?_⟩
      exact hs.covered ⟨by have := hs.start_lt; omega, by omega⟩
    | hidden s =>
      have hs := htiles.sound.2 s hpiece
      obtain ⟨i, hi, hne, hb⟩ :=
        (mem_dropLast_bytes_iff hs).mp (newline_mem_shown_hidden_iff.mp hshown)
      refine ⟨i, hb, fun t ht hstop => hne ?_⟩
      -- a span that ends there shares the newline with `s`
      have hti : t.Holds i := ⟨by have := ht.start_lt; omega, by omega⟩
      rw [isSpan_unique hs ht hi hti, hstop]
  · rintro ⟨i, hb, hends⟩
    obtain ⟨hlt, -⟩ := List.getElem?_eq_some_iff.mp hb
    obtain ⟨piece, hpiece, hi⟩ := htiles.exists_holds (Nat.zero_le i) hlt
    refine ⟨piece, hpiece, ?_⟩
    cases piece with
    | kept k =>
      rw [← kept_holds_iff.mp hi, Piece.shown, hb]
      exact List.mem_singleton_self _
    | hidden s =>
      have hs := htiles.sound.2 s hpiece
      exact newline_mem_shown_hidden_iff.mpr
        ((mem_dropLast_bytes_iff hs).mpr ⟨i, hi, (hends s hs).symm, hb⟩)

/-! ## The lines of what is printed -/

/-- The number of lines, where a newline ends one. -/
theorem length_linesOf_append (bytes rest : Bytes) :
    (linesOf (bytes ++ newline :: rest)).length =
      bytes.count newline + 1 + (linesOf rest).length := by
  induction bytes with
  | nil => simp [linesOf_newline, Nat.add_comm]
  | cons b bytes ih =>
    by_cases hb : b = newline
    · subst hb
      rw [List.cons_append, linesOf_newline, List.length_cons, ih, List.count_cons_self]
      omega
    · have hmore : bytes ++ newline :: rest ≠ [] := by simp
      rw [List.cons_append, linesOf, if_neg hb, List.count_cons_of_ne hb, ← ih, List.length_cons,
        ← headD_cons_tail_linesOf hmore, List.length_cons]
      rfl

theorem linesOf_line {bytes : Bytes} (h : newline ∉ bytes) (rest : Bytes) :
    linesOf (bytes ++ newline :: rest) = (bytes ++ [newline]) :: linesOf rest := by
  cases bytes with
  | nil => exact linesOf_newline rest
  | cons b bytes => rw [linesOf_append (List.cons_ne_nil _ _) h, linesOf_newline]; rfl

end Redaction

open Redaction (newline linesOf IsSpan)

namespace CommandLine

theorem printed_cons (line : String) (lines : List String) :
    printed (line :: lines) = Utf8.encode line ++ newline :: printed lines := by
  rw [printed, List.map_cons, String.join_cons, Utf8.encode_append, Utf8.encode_append,
    List.append_assoc]
  rfl

theorem length_linesOf_printed (lines : List String) : (linesOf (printed lines)).length =
    lines.length + (lines.flatMap Utf8.encode).count newline := by
  induction lines with
  | nil => rfl
  | cons line lines ih =>
    rw [printed_cons, Redaction.length_linesOf_append, ih, List.flatMap_cons, List.count_append,
      List.length_cons]
    omega

theorem linesOf_printed {lines : List String} (h : ∀ line ∈ lines, newline ∉ Utf8.encode line) :
    linesOf (printed lines) = lines.map fun line => Utf8.encode (line ++ "\n") := by
  induction lines with
  | nil => rfl
  | cons line lines ih =>
    rw [List.forall_mem_cons] at h
    rw [printed_cons, Redaction.linesOf_line h.1, ih h.2, List.map_cons, Utf8.encode_append]
    rfl

/-- **What is printed has as many lines as were printed** iff none of these has a newline. -/
theorem length_linesOf_printed_iff {lines : List String} :
    (linesOf (printed lines)).length = lines.length ↔
      ∀ line ∈ lines, newline ∉ Utf8.encode line := by
  rw [length_linesOf_printed, Nat.add_eq_left, List.count_eq_zero, List.mem_flatMap]
  simp only [not_exists, not_and]

end CommandLine

/-! ## The lines of commands -/

/-- A command has one line: there is no newline in the key, and in a value that is shown, every
newline is the last byte of a span. -/
def Command.OneLine (secrets : SecretSet) : Command → Prop
  | .set v => '\n' ∉ v.key.toList ∧ (v.isSensitive = false →
      ∀ i, (Utf8.encode v.value)[i]? = some newline →
        ∃ s, IsSpan secrets.bytes (Utf8.encode v.value) s ∧ s.stop = i + 1)
  | .unset key => '\n' ∉ key.toList
  | .skip key => '\n' ∉ key.toList

namespace Command

variable {secrets : SecretSet}

theorem newline_mem_encode_iff (text : String) : newline ∈ Utf8.encode text ↔ '\n' ∈ text.toList :=
  Utf8.mem_encode_iff (a := '\n') (by decide) text

/-- A value that is shown has a newline iff some newline of it is not the last byte of a span. -/
theorem newline_mem_redact_iff (value : String) : '\n' ∈ (secrets.redact value).toList ↔
    ∃ i, (Utf8.encode value)[i]? = some newline ∧
      ∀ s, IsSpan secrets.bytes (Utf8.encode value) s → s.stop ≠ i + 1 := by
  rw [← newline_mem_encode_iff, SecretSet.encode_redact]
  exact Redaction.newline_mem_redact_iff

/-- **A command has one line** iff there is no newline in what it prints. -/
theorem oneLine_iff {c : Command} : newline ∉ Utf8.encode (c.line secrets) ↔ c.OneLine secrets := by
  have hset : '\n' ∉ "set ".toList := by decide
  have hequals : '\n' ∉ "=".toList := by decide
  have hunset : '\n' ∉ "unset ".toList := by decide
  have hskip : '\n' ∉ "skip ".toList := by decide
  have hmarker : '\n' ∉ Redaction.markerText.toList := by decide
  rw [newline_mem_encode_iff]
  cases c with
  | set v =>
    simp only [line, OneLine, String.toList_append, List.mem_append, hset, hequals, false_or,
      or_false, not_or]
    refine and_congr_right fun _ => ?_
    cases v.isSensitive with
    | true => simp [hmarker]
    | false => simp [newline_mem_redact_iff]
  | unset key => simp only [line, OneLine, String.toList_append, List.mem_append, hunset, false_or]
  | skip key => simp only [line, OneLine, String.toList_append, List.mem_append, hskip, false_or]

end Command

/-! ## The lines of declarations -/

namespace CommandLine

/-- The command succeeds iff all that it reads and resolves does. -/
theorem lines_eq_ok {r : EnvsRequest} {env : Environment} {read : String → FileRead}
    {lines : List String} : r.lines env read = .ok lines ↔
      ∃ (inventory declarations : List Declaration) (base effects : Resolution) (set : SecretSet),
        inventoryOf r.inventory read = .ok inventory ∧
        Declaration.load r.declarations (read r.declarations) = .ok declarations ∧
        resolve inventory env = .ok base ∧ resolve declarations base.result = .ok effects ∧
        SecretSet.ofDeclarations inventory = .ok set ∧
        lines = effects.history.map (Command.line set) := by
  simp only [EnvsRequest.lines, bind, bind_eq_ok, pure, Except.pure, Except.ok.injEq]
  constructor
  · rintro ⟨inventory, h1, declarations, h2, base, h3, effects, h4, set, h5, h6⟩
    exact ⟨inventory, declarations, base, effects, set, h1, h2, h3, h4, h5, h6.symm⟩
  · rintro ⟨inventory, declarations, base, effects, set, h1, h2, h3, h4, h5, h6⟩
    exact ⟨inventory, h1, declarations, h2, base, h3, effects, h4, set, h5, h6.symm⟩

/-- **There is one line for each declaration iff each of their commands has one.** If an inventory
and declarations resolve, the command prints the lines of the history, whose commands are those of
the declarations in order. The output falls into exactly these lines if each command has one line,
and otherwise it has another number of lines than there are declarations. -/
theorem line_per_declaration {r : EnvsRequest} {env : Environment} {read : String → FileRead}
    {inventory declarations : List Declaration} {base effects : Resolution}
    (hinventory : inventoryOf r.inventory read = .ok inventory)
    (hdeclarations : Declaration.load r.declarations (read r.declarations) = .ok declarations)
    (hbase : resolve inventory env = .ok base)
    (heffects : resolve declarations base.result = .ok effects) :
    ∃ secrets lines, SecretSet.ofDeclarations inventory = .ok secrets ∧
      r.lines env read = .ok lines ∧
      lines = effects.history.map (Command.line secrets) ∧
      List.Forall₂ (fun d c => ∃ text, d.keyValue = .ok (c.key, text)) declarations
        effects.history ∧
      ((∀ c ∈ effects.history, c.OneLine secrets) →
        linesOf (printed lines) = lines.map fun line => Utf8.encode (line ++ "\n")) ∧
      ((linesOf (printed lines)).length = declarations.length ↔
        ∀ c ∈ effects.history, c.OneLine secrets) := by
  obtain ⟨own, hown⟩ : ∃ own, resolve inventory .empty = .ok own :=
    Resolution.exists_continueFrom_iff.mpr (Resolution.exists_continueFrom_iff.mp ⟨base, hbase⟩)
  have hsecrets : SecretSet.ofDeclarations inventory = .ok _ := map_eq_ok.mpr ⟨own, hown, rfl⟩
  generalize SecretSet.ofList _ = secrets at hsecrets
  have hlines : r.lines env read = .ok (effects.history.map (Command.line secrets)) :=
    lines_eq_ok.mpr ⟨inventory, declarations, base, effects, secrets, hinventory, hdeclarations,
      hbase, heffects, hsecrets, rfl⟩
  have honeLine :
    (∀ line ∈ effects.history.map (Command.line secrets), newline ∉ Utf8.encode line) ↔
      ∀ c ∈ effects.history, c.OneLine secrets := by
    rw [List.forall_mem_map]
    exact forall₂_congr fun _ _ => Command.oneLine_iff
  refine ⟨secrets, _, hsecrets, hlines, rfl, Resolution.forall₂_history heffects, fun h => ?_, ?_⟩
  · exact linesOf_printed (honeLine.mpr h)
  · rw [← Resolution.history_length heffects, ← List.length_map (Command.line secrets),
      length_linesOf_printed_iff, honeLine]

/-- A secret that ends with a newline, a value of two lines that is hidden whole, and a variable
that is unset. -/
theorem line_per_declaration_mixed :
    let r : EnvsRequest := ⟨some "inventory.yml", "envs.yml"⟩
    let read : String → FileRead := fun path => .ok (Utf8.encode (
      if path = "inventory.yml" then "envs:\n- KEY: \"one\\n\"\n"
      else "- A: \"one\\n\"\n- B: \"x\\ny\"\n  opts:\n    is_sensitive: true\n" ++
        "- C:\n  opts:\n    unset: true\n"))
    let lines := ["set A=[REDACTED]", "set B=[REDACTED]", "unset C"]
    r.lines .empty read = .ok lines ∧
      linesOf (printed lines) = lines.map fun line => Utf8.encode (line ++ "\n") := by
  intro r read lines
  have hlines : r.lines .empty read = .ok lines := eq_ok_of_toOption (by decide +kernel)
  obtain ⟨inventory, declarations, base, effects, _, hinventory, hdeclarations, hbase, heffects, -,
    hshown⟩ :=
    lines_eq_ok.mp hlines
  obtain ⟨_, lines', -, hlines', -, -, hfalls, hcount⟩ :=
    line_per_declaration hinventory hdeclarations hbase heffects
  obtain rfl : lines = lines' := Except.ok.inj (hlines.symm.trans hlines')
  have hthree : (linesOf (printed lines)).length = declarations.length := by
    rw [← Resolution.history_length heffects, ← List.length_map (Command.line _), ← hshown]
    decide +kernel
  exact ⟨hlines, hfalls (hcount.mp hthree)⟩

/-- **One declaration can look like two.** Its value goes over two lines, of which the second reads
like the line of another declaration. -/
theorem one_declaration_two_lines :
    let read : String → FileRead := fun path => .ok (Utf8.encode (
      if path = "one.yml" then "- A: \"x\\nset B=y\"\n" else "- A: x\n- B: y\n"))
    ∃ declarations lines lines', Declaration.load "one.yml" (read "one.yml") = .ok declarations ∧
      declarations.length = 1 ∧ EnvsRequest.lines ⟨none, "one.yml"⟩ .empty read = .ok lines ∧
      (linesOf (printed lines)).length = 2 ∧
      EnvsRequest.lines ⟨none, "two.yml"⟩ .empty read = .ok lines' ∧
        printed lines' = printed lines := by
  intro read
  have hload : ((Declaration.load "one.yml" (read "one.yml")).toOption.map List.length) =
      some 1 := by
    decide +kernel
  obtain ⟨declarations, hdeclarations, hlength⟩ := Option.map_eq_some_iff.mp hload
  have hone : EnvsRequest.lines ⟨none, "one.yml"⟩ .empty read = .ok ["set A=x\nset B=y"] :=
    eq_ok_of_toOption (by decide +kernel)
  have htwo : EnvsRequest.lines ⟨none, "two.yml"⟩ .empty read = .ok ["set A=x", "set B=y"] :=
    eq_ok_of_toOption (by decide +kernel)
  exact ⟨declarations, _, _, eq_ok_of_toOption hdeclarations, hlength, hone, by decide +kernel,
    htwo, rfl⟩

end CommandLine

end Stepwise
