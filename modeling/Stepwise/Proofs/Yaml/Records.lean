import Stepwise.Proofs.Success
import Stepwise.Yaml.Reader

/-!
# Records of a YAML document

A record is read from a node field by field. A field that the node does not give has its default.

* `Reads`: a decoder gives a value for a document.
* `HasFields`: the fields that a node gives, by name. `FieldGives`: what one field is read as.
* `Reads.of_record`: **a record is built from the fields of its node.**
-/

namespace Stepwise.Yaml

variable {α β : Type} {doc : Document}

/-! ## Decoders -/

/-- A decoder gives a value for a document if it may follow some number of aliases. -/
def Reads (doc : Document) (d : Decoder α) (a : α) : Prop :=
  ∃ left left', (d.run doc).run left = .ok (a, left')

theorem Reads.of_bind {d : Decoder α} {f : α → Decoder β} {b : β} (h : Reads doc (d >>= f) b) :
    ∃ a, Reads doc d a ∧ Reads doc (f a) b := by
  obtain ⟨left, left', h⟩ := h
  obtain ⟨⟨a, between⟩, hd, hf⟩ := bind_eq_ok.mp h
  exact ⟨a, ⟨left, between, hd⟩, ⟨between, left', hf⟩⟩

theorem Reads.eq_of_pure {a b : α} (h : Reads doc (pure a) b) : a = b := by
  obtain ⟨left, left', h⟩ := h
  exact (Prod.mk.inj (Except.ok.inj h)).1

theorem not_reads_throw (fault : Fault) (a : α) : ¬ Reads doc (throw fault) a := by
  rintro ⟨_, _, h⟩
  cases h

theorem exists_reads_of_run {reader : Reader α} {text : String} {a : α}
    (h : reader.run text = .ok a) :
    ∃ doc, Document.ofText text = .ok doc ∧ Reads doc (reader Reader.maxDepth doc.root) a := by
  obtain ⟨doc, hdoc, h⟩ := bind_eq_ok.mp h
  obtain ⟨⟨b, left⟩, hread, h⟩ := bind_eq_ok.mp h
  obtain rfl : b = a := Except.ok.inj h
  exact ⟨doc, hdoc, _, left, hread⟩

/-! ## Texts -/

/-- Where an alias leads does not depend on how many may be followed. -/
theorem Reads.follow_unique {node n m : Node} (hn : Reads doc (Reader.follow node) n)
    (hm : Reads doc (Reader.follow node) m) : n = m := by
  cases node with
  | scalar | sequence | mapping => exact hn.eq_of_pure.symm.trans hm.eq_of_pure
  | «alias» number =>
    have hfound : ∀ {k}, Reads doc (Reader.follow (.alias number)) k →
        doc.find? number = some k := by
      intro k h
      obtain ⟨left, hget, h⟩ := h.of_bind
      cases left with
      | zero => exact absurd h (not_reads_throw _ _)
      | succ left =>
        obtain ⟨_, -, h⟩ := h.of_bind
        obtain ⟨d, ⟨_, _, hread⟩, h⟩ := h.of_bind
        obtain rfl : doc = d := (Prod.mk.inj (Except.ok.inj hread)).1
        cases hfind : doc.find? number with
        | none =>
          rw [hfind] at h
          exact absurd h (not_reads_throw _ _)
        | some target =>
          rw [hfind] at h
          rw [h.eq_of_pure]
    exact Option.some.inj ((hfound hn).symm.trans (hfound hm))

theorem Reads.text_unique {depth depth' : Nat} {node : Node} {a b : String}
    (ha : Reads doc (Reader.text depth node) a) (hb : Reads doc (Reader.text depth' node) b) :
    a = b := by
  obtain ⟨n, hn, ha⟩ := ha.of_bind
  obtain ⟨m, hm, hb⟩ := hb.of_bind
  obtain rfl := hn.follow_unique hm
  cases n with
  | scalar => exact ha.eq_of_pure.symm.trans hb.eq_of_pure
  | sequence | mapping | «alias» => exact absurd ha (not_reads_throw _ _)

/-! ## Fields -/

/-- What a field of a record gives: its default where it is absent, and otherwise what its node is
read as. -/
inductive FieldGives (doc : Document) (reader : Reader α) (default : α) : Option Node → α → Prop
  | absent : FieldGives doc reader default none default
  | written {depth : Nat} {node : Node} {a : α} (h : Reads doc (reader depth node) a) :
      FieldGives doc reader default (some node) a

theorem Reads.fieldGives {reader : Reader α} {default a : α} {depth : Nat} {node : Option Node}
    (h : Reads doc (Reader.field reader default depth node) a) :
    FieldGives doc reader default node a := by
  cases node with
  | none => exact h.eq_of_pure ▸ .absent
  | some node => exact .written h

/-- The fields that a node gives, by name: the values of a mapping whose keys are the names, the
items of a sequence in the order of the names, or none where nothing is written. -/
inductive HasFields (doc : Document) (names : List String) : Node → (String → Option Node) → Prop
  | mapping {tag : Option String} {entries : List (Node × Node)} {field : String → Option Node}
      (h : ∀ name node, field name = some node ↔
        name ∈ names ∧ ∃ key, (key, node) ∈ entries ∧ Reads doc (Reader.text 0 key) name) :
      HasFields doc names (.mapping tag entries) field
  | sequence {tag : Option String} {items : List Node} (h : items.length ≤ names.length) :
      HasFields doc names (.sequence tag items) fun name => (names.zip items).lookup name
  | nothing {tag : Option String} : HasFields doc names (.scalar tag .plain "") fun _ => none

/-- **The named entries of a mapping** are those whose keys are names. -/
theorem Reads.lookup_namedEntries {names : List String} {depth : Nat} {entries : List (Node × Node)}
    {fields : List (String × Node)} (h : Reads doc (Reader.namedEntries names depth entries) fields)
    (name : String) (node : Node) : fields.lookup name = some node ↔
      name ∈ names ∧ ∃ key, (key, node) ∈ entries ∧ Reads doc (Reader.text 0 key) name := by
  induction entries generalizing fields with
  | nil =>
    obtain rfl := h.eq_of_pure
    simp
  | cons entry entries ih =>
    obtain ⟨key, value⟩ := entry
    obtain ⟨own, hown, h⟩ := h.of_bind
    obtain ⟨others, hothers, h⟩ := h.of_bind
    have ih := ih hothers
    -- only the first entry can have the name of its key
    have hfirst : (∃ k, (k, node) ∈ (key, value) :: entries ∧ Reads doc (Reader.text 0 k) name) ↔
        (name = own ∧ node = value) ∨ ∃ k, (k, node) ∈ entries ∧
          Reads doc (Reader.text 0 k) name := by
      constructor
      · rintro ⟨k, hk, hname⟩
        rcases List.mem_cons.mp hk with heq | hk
        · obtain ⟨rfl, rfl⟩ := Prod.mk.inj heq
          exact Or.inl ⟨hname.text_unique hown, rfl⟩
        · exact Or.inr ⟨k, hk, hname⟩
      · rintro (⟨rfl, rfl⟩ | ⟨k, hk, hname⟩)
        · exact ⟨key, List.mem_cons_self, hown⟩
        · exact ⟨k, List.mem_cons_of_mem _ hk, hname⟩
    rw [hfirst]
    by_cases hmem : own ∈ names
    · rw [if_neg (not_not_intro hmem)] at h
      split at h
      · exact absurd h (not_reads_throw _ _)
      · rename_i hnone
        obtain rfl := h.eq_of_pure
        rw [Bool.not_eq_true, Option.isSome_eq_false_iff, Option.isNone_iff_eq_none] at hnone
        by_cases heq : name = own
        · subst heq
          rw [List.lookup_cons_self]
          have hnot : ¬ ∃ k, (k, node) ∈ entries ∧ Reads doc (Reader.text 0 k) name :=
            fun hex => absurd ((ih.mpr ⟨hmem, hex⟩).symm.trans hnone) nofun
          simp [hmem, hnot, eq_comm]
        · have hbeq : (name == own) = false := by simpa using heq
          simp [List.lookup_cons, hbeq, ih, heq]
    · rw [if_pos hmem] at h
      obtain rfl := h.eq_of_pure
      rw [ih]
      constructor
      · exact fun ⟨hname, hex⟩ => ⟨hname, Or.inr hex⟩
      · rintro ⟨hname, ⟨rfl, -⟩ | hex⟩
        · exact absurd hname hmem
        · exact ⟨hname, hex⟩

/-- **A record is built from the fields of its node.** -/
theorem Reads.of_record {names : List String} {build : Nat → (String → Option Node) → Decoder α}
    {depth : Nat} {node : Node} {a : α} (h : Reads doc (Reader.record names build depth node) a) :
    ∃ target field d, Reads doc (Reader.follow node) target ∧ HasFields doc names target field ∧
      Reads doc (build d field) a := by
  obtain ⟨target, hfollow, h⟩ := h.of_bind
  cases target with
  | scalar tag style text =>
    simp only at h
    split at h
    · rename_i hblank
      obtain ⟨rfl, rfl⟩ : style = .plain ∧ text = "" := by simpa [Reader.isBlank] using hblank
      exact ⟨_, _, _, hfollow, .nothing, h⟩
    · exact absurd h (not_reads_throw _ _)
  | sequence tag items =>
    cases depth with
    | zero => exact absurd h (not_reads_throw _ _)
    | succ d =>
      simp only at h
      split at h
      · obtain ⟨_, hthrow, -⟩ := h.of_bind
        exact absurd hthrow (not_reads_throw _ _)
      · exact ⟨_, _, d, hfollow, .sequence (Nat.le_of_not_lt ‹_›), h⟩
  | mapping tag entries =>
    cases depth with
    | zero => exact absurd h (not_reads_throw _ _)
    | succ d =>
      obtain ⟨fields, hfields, h⟩ := h.of_bind
      exact ⟨_, _, d, hfollow, .mapping hfields.lookup_namedEntries, h⟩
  | «alias» anchor => exact absurd h (not_reads_throw _ _)

end Stepwise.Yaml
