import SchemaPages.Proofs.Data.Yaml.Lines
/-!
# Documents of YAML are texts

Whatever the texts in it are, a document is written with characters that may stand in a text; so nothing
is lost when it is cut into tokens.

* `printable_of_style`, `printable_doubleQuotedChar`: a character that may not stand in a text is written
  by its number or a letter;
* `printable_value`: what is written of a value;
* `tokens_render`: the tokens of a document.
-/

namespace SchemaPages.Yaml

/-! ## 1. Characters -/

section Characters

variable {c : Char} {cs : List Char} {s : String}

/-- A text with a character that must be escaped is written between double quotes. -/
theorem printable_of_style (h : styleOf s ≠ .double) : ∀ c ∈ s.toList, isPrintable c = true := by
  refine printable_of_analyse (Bool.eq_false_iff.mpr fun special => h ?_)
  unfold styleOf
  simp [special]

theorem printable_blanks (n : Nat) : ∀ c ∈ blanks n, isPrintable c = true := by
  intro c mem
  rw [List.eq_of_mem_replicate mem]
  rfl

theorem printable_indentLines (indent : Nat) (atStart : Bool) (h : ∀ c ∈ cs, isPrintable c = true) :
    ∀ c ∈ indentLines indent atStart cs, isPrintable c = true := by
  induction cs generalizing atStart with
  | nil => exact fun _ mem => nomatch mem
  | cons d cs ih =>
      rw [List.forall_mem_cons] at h
      rw [indentLines]
      split
      · exact List.forall_mem_cons.mpr ⟨h.1, ih _ h.2⟩
      · refine List.forall_mem_append.mpr ⟨?_, List.forall_mem_cons.mpr ⟨h.1, ih _ h.2⟩⟩
        split
        · exact printable_blanks indent
        · exact List.forall_mem_nil _

theorem printable_singleQuoted (indent : Nat) (h : ∀ c ∈ cs, isPrintable c = true) :
    ∀ c ∈ singleQuoted indent cs, isPrintable c = true := by
  have body : ∀ c ∈ cs.flatMap doubled, isPrintable c = true := by
    intro c mem
    obtain ⟨d, known, written⟩ := List.mem_flatMap.mp mem
    unfold doubled at written
    have same : c = d := by
      split at written <;> simpa using written
    exact same ▸ h d known
  have last : ∀ c ∈ (if endsLine (cs.getLastD '\x27') then blanks indent else []),
      isPrintable c = true := by
    split
    · exact printable_blanks indent
    · exact List.forall_mem_nil _
  rw [singleQuoted_eq]
  simp only [List.forall_mem_cons, List.forall_mem_append]
  exact ⟨rfl, printable_indentLines indent false body, last, rfl, List.forall_mem_nil _⟩

/-- What is a digit of base sixteen may stand in a text. -/
theorem printable_of_hexValue {d : Char} (h : hexValue? d ≠ none) : isPrintable d = true := by
  have range : 0x20 ≤ d.val.toNat ∧ d.val.toNat ≤ 0x7E := by
    unfold hexValue? at h
    simp only [Char.isDigit, Char.le_def, ge_iff_le, Bool.and_eq_true, decide_eq_true_eq,
      UInt32.le_iff_toNat_le] at h
    split at h
    · rename_i decimal
      exact ⟨Nat.le_trans (by decide) decimal.1, Nat.le_trans decimal.2 (by decide)⟩
    · split at h
      · rename_i lower
        exact ⟨Nat.le_trans (by decide) lower.1, Nat.le_trans lower.2 (by decide)⟩
      · split at h
        · rename_i upper
          exact ⟨Nat.le_trans (by decide) upper.1, Nat.le_trans upper.2 (by decide)⟩
        · exact absurd rfl h
  have ascii : 0x20 ≤ d.toNat ∧ d.toNat ≤ 0x7E := range
  simp [isPrintable, ascii]

theorem printable_hexRun {ds : List Char} {value n : Nat} (h : hexRun value ds = some n) :
    ∀ d ∈ ds, isPrintable d = true := by
  induction ds generalizing value with
  | nil => exact List.forall_mem_nil _
  | cons d ds ih =>
      rw [hexRun] at h
      cases digit : hexValue? d with
      | none =>
          rw [digit] at h
          cases h
      | some k =>
          rw [digit] at h
          exact List.forall_mem_cons.mpr ⟨printable_of_hexValue (by simp [digit]), ih h⟩

/-- No letter behind a backslash is a control character but the one for a tab, which is not written. -/
theorem printable_doubleQuotedChar (c : Char) : ∀ d ∈ doubleQuotedChar c, isPrintable d = true := by
  rcases doubleQuotedChar_cases c with ⟨written, raw⟩ | ⟨l, written, letter, _⟩ |
    ⟨e, ds, written, _, _, wide, _, number⟩
  · rw [written, List.forall_mem_singleton]
    exact raw.printable
  · rw [written, List.forall_mem_cons, List.forall_mem_singleton]
    refine ⟨rfl, ?_⟩
    by_cases tab : l = '\t'
    · subst tab
      have same : '\t' = c := Option.some.inj letter
      rw [← same] at written
      exact absurd written (by decide)
    · unfold escapeLetter? at letter
      split at letter
      case h_5 => exact absurd rfl tab
      case h_19 => cases letter
      all_goals decide
  · have announced : isPrintable e = true := by
      unfold escapeWidth? at wide
      split at wide
      case h_4 => cases wide
      all_goals decide
    rw [written, List.forall_mem_cons, List.forall_mem_cons]
    exact ⟨rfl, announced, printable_hexRun number⟩

theorem printable_blockHeading (cs : List Char) : ∀ c ∈ blockHeading cs, isPrintable c = true := by
  rw [blockHeading_eq, List.forall_mem_cons, List.forall_mem_append]
  refine ⟨rfl, ?_, ?_⟩
  · split
    · exact List.forall_mem_singleton.mpr rfl
    · exact List.forall_mem_nil _
  · cases chompingOf cs
    · exact List.forall_mem_singleton.mpr rfl
    · exact List.forall_mem_nil _
    · exact List.forall_mem_singleton.mpr rfl

/-- **What is written of a text may stand in a text**, whatever is in it. -/
theorem printable_textLine (indent : Nat) (s : String) :
    ∀ c ∈ textLine indent s, isPrintable c = true := by
  have own : styleOf s ≠ .double → ∀ c ∈ s.toList, isPrintable c = true := printable_of_style
  cases style : styleOf s with
  | plain =>
      rw [textLine_plain style, List.forall_mem_append]
      exact ⟨own (by simp [style]), List.forall_mem_singleton.mpr rfl⟩
  | single =>
      rw [textLine_single style, List.forall_mem_append]
      exact ⟨printable_singleQuoted _ (own (by simp [style])), List.forall_mem_singleton.mpr rfl⟩
  | double =>
      have quoted : ∀ c ∈ s.toList.flatMap doubleQuotedChar, isPrintable c = true := by
        intro c mem
        obtain ⟨d, _, written⟩ := List.mem_flatMap.mp mem
        exact printable_doubleQuotedChar d c written
      rw [textLine_double style]
      simp only [List.forall_mem_cons, List.forall_mem_append]
      exact ⟨rfl, quoted, rfl, rfl, List.forall_mem_nil _⟩
  | literal =>
      obtain ⟨filled, printable⟩ := literal_of_style style
      rw [textLine_literal style (List.dropLast_concat_getLast filled).symm]
      simp only [List.forall_mem_cons, List.forall_mem_append]
      refine ⟨printable_blockHeading _, rfl, printable_indentLines _ true printable, ?_⟩
      split
      · exact List.forall_mem_nil _
      · exact List.forall_mem_singleton.mpr rfl

theorem printable_leafLine (indent : Nat) {v : Value} (legible : Legible v) :
    ∀ c ∈ leafLine indent v, isPrintable c = true := by
  cases v with
  | bool b => cases b <;> exact List.all_eq_true.mp rfl
  | str s => exact printable_textLine indent s
  | num n => cases legible
  | _ => exact List.all_eq_true.mp rfl

theorem printable_key {key : String} (word : PlainKey key) : ∀ c ∈ key.toList, isPrintable c = true :=
  printable_of_style (by simp [word.plain])

end Characters

/-! ## 2. Values -/

mutual

/-- **What is written of a value may stand in a text**, behind a dash or a colon. -/
theorem printable_value : ∀ (v : Value) (indent : Nat), Legible v →
    (∀ c ∈ inlineValue indent v, isPrintable c = true) ∧ ∀ c ∈ behindColon indent v, isPrintable c = true
  | .arr (v :: vs), indent, legible => by
      have first := (printable_value v (indent + 2) legible.1).1
      have inside := printable_items vs (indent + 2) legible.2
      have below := printable_items (v :: vs) indent legible
      simp only [inlineValue, behindColon, List.cons_append, List.forall_mem_cons, List.forall_mem_append]
      exact ⟨⟨rfl, rfl, first, inside⟩, rfl, below⟩
  | .obj ((k, v) :: es), indent, legible => by
      obtain ⟨_, word, first, others⟩ := legible
      have value := (printable_value v (indent + 2) first).2
      have inside := printable_entries es (indent + 2) others
      have below := printable_entries ((k, v) :: es) (indent + 2) ⟨word, first, others⟩
      simp only [inlineValue, entry_plain word, behindColon, List.cons_append, List.forall_mem_cons,
        List.forall_mem_append]
      exact ⟨⟨rfl, ⟨printable_key word, rfl, value⟩, inside⟩, rfl, below⟩
  | .arr [], indent, legible
  | .obj [], indent, legible
  | .null, indent, legible
  | .bool _, indent, legible
  | .num _, indent, legible
  | .str _, indent, legible => by
      have line := printable_leafLine indent legible
      simp only [inlineValue, behindColon, List.forall_mem_cons]
      exact ⟨⟨rfl, line⟩, rfl, line⟩
termination_by structural v => v

/-- The lines of items may stand in a text. -/
theorem printable_items : ∀ (vs : List Value) (indent : Nat), LegibleItems vs →
    ∀ c ∈ items indent vs, isPrintable c = true
  | [], _, _ => by
      rw [items]
      exact List.forall_mem_nil _
  | v :: vs, indent, legible => by
      have first := (printable_value v indent legible.1).1
      have others := printable_items vs indent legible.2
      simp only [items_cons, List.forall_mem_cons, List.forall_mem_append]
      exact ⟨printable_blanks indent, rfl, first, others⟩
termination_by structural vs => vs

/-- The lines of entries may stand in a text. -/
theorem printable_entries : ∀ (es : List (String × Value)) (indent : Nat), LegibleEntries es →
    ∀ c ∈ entries indent es, isPrintable c = true
  | [], _, _ => by
      rw [entries]
      exact List.forall_mem_nil _
  | (k, v) :: es, indent, legible => by
      obtain ⟨word, first, others⟩ := legible
      have value := (printable_value v indent first).2
      have later := printable_entries es indent others
      simp only [entries_cons word, List.forall_mem_cons, List.forall_mem_append]
      exact ⟨printable_blanks indent, printable_key word, rfl, value, later⟩
termination_by structural es => es

end

/-! ## 3. Texts -/

section Texts

variable {c : Char} {cs : List Char}

theorem isAllowed_of_printable (h : isPrintable c = true) : isAllowed c = true := by
  simp only [isPrintable, Bool.or_eq_true, Bool.and_eq_true, decide_eq_true_eq] at h
  simp only [isAllowed, Bool.or_eq_true, Bool.and_eq_true, decide_eq_true_eq]
  omega

/-- The only line end that may be written is the one that all line ends become. -/
theorem lineEnds_printable (h : ∀ c ∈ cs, isPrintable c = true) : lineEnds cs = cs := by
  fun_induction lineEnds cs with
  | case1 => rfl
  | case2 rest ih => exact absurd (h '\r' List.mem_cons_self) (by decide)
  | case3 rest _ ih => exact absurd (h '\r' List.mem_cons_self) (by decide)
  | case4 rest ih => exact absurd (h '\u0085' List.mem_cons_self) (by decide)
  | case5 c rest _ _ _ ih => rw [ih fun d mem => h d (List.mem_cons_of_mem c mem)]

/-- What may be written is cut into tokens as it is. -/
theorem tokens_printable {text : String} (h : ∀ c ∈ text.toList, isPrintable c = true) :
    tokens text = Scanner.run { cursor := { rest := text.toList } } (text.toList.length + 1) := by
  have allowed : (text.toList.find? fun c => !isAllowed c) = none := by
    rw [List.find?_eq_none]
    intro c mem
    simp [isAllowed_of_printable (h c mem)]
  unfold tokens
  rw [allowed]
  dsimp only
  rw [lineEnds_printable h]

/-- **The tokens of a text** are those of its mapping. -/
theorem tokens_render {e : String × Value} {es : List (String × Value)}
    (legible : Legible (.obj (e :: es))) :
    tokens (render (.obj (e :: es))) = .ok (valueTokens true (.obj (e :: es))) := by
  have printable := printable_entries (e :: es) 0 legible.2
  rw [render, tokens_printable, String.toList_ofList]
  · exact Scanner.run_mapping legible (Nat.lt_succ_self _)
  · rwa [String.toList_ofList]

end Texts

end SchemaPages.Yaml
