import SchemaPages.Data.Yaml.Printer
/-!
# Plain scalars are read back

Whether a text can stand plainly is decided by an analysis that runs once over its characters. What it
does not find is what would end a plain scalar before its end.

* `within_analyseRest`: what an analysis has found stays found;
* `plainText_of_style`, `singleRest_of_style`, `literal_of_style`: what is known of a text by the way it
  is written;
* `readPlain_plainText`, `readPlain_colon`, `readPlain_line`: a plain text is read up to what ends it.
-/

namespace SchemaPages.Yaml

/-! ## 1. What the analysis of a text says -/

/-- **What is said of a text stays said** while more of it is analysed: what is not said in the end
    has not been said before. -/
structure Analysis.Within (a b : Analysis) : Prop where
  mark : b.hasMark = false → a.hasMark = false
  special : b.hasSpecial = false → a.hasSpecial = false
  line : b.hasBreak = false → a.hasBreak = false
  edge : b.hasEdge = false → a.hasEdge = false
  breakThenSpace : b.breakThenSpace = false → a.breakThenSpace = false
  spaceThenBreak : b.spaceThenBreak = false → a.spaceThenBreak = false

/-- What one character adds to an analysis. -/
def Analysis.add (a : Analysis) (before c : Char) (next : Option Char) : Analysis :=
  { a with
    hasMark := a.hasMark || laterIsMark before c next
    hasSpecial := a.hasSpecial || !isPrintable c
    hasBreak := a.hasBreak || endsLine c
    breakThenSpace := a.breakThenSpace || (endsLine before && c == ' ')
    spaceThenBreak := a.spaceThenBreak || (before == ' ' && endsLine c) }

theorem analyseRest_cons (before c : Char) (a : Analysis) (cs : List Char) :
    analyseRest before a (c :: cs) = analyseRest c (a.add before c cs.head?) cs := rfl

theorem within_analyseRest (before : Char) (a : Analysis) (cs : List Char) :
    a.Within (analyseRest before a cs) := by
  induction cs generalizing before a with
  | nil => constructor <;> simp +contextual [analyseRest]
  | cons c cs ih =>
      have later := ih c (a.add before c cs.head?)
      exact
        { mark := fun h => (Bool.or_eq_false_iff.mp (later.mark h)).1
          special := fun h => (Bool.or_eq_false_iff.mp (later.special h)).1
          line := fun h => (Bool.or_eq_false_iff.mp (later.line h)).1
          edge := later.edge
          breakThenSpace := fun h => (Bool.or_eq_false_iff.mp (later.breakThenSpace h)).1
          spaceThenBreak := fun h => (Bool.or_eq_false_iff.mp (later.spaceThenBreak h)).1 }

/-- The rest of a text that can stand plainly, behind a character of it. -/
def PlainRest : Char → List Char → Prop
  | before, [] => before ≠ ' '
  | before, c :: rest =>
    (laterIsMark before c rest.head? = false ∧ isPrintable c = true ∧ endsLine c = false) ∧
      PlainRest c rest

instance decidablePlainRest : ∀ before cs, Decidable (PlainRest before cs)
  | before, [] => inferInstanceAs (Decidable (before ≠ ' '))
  | before, c :: rest =>
    have := decidablePlainRest c rest
    inferInstanceAs (Decidable ((laterIsMark before c rest.head? = false ∧ isPrintable c = true ∧
      endsLine c = false) ∧ PlainRest c rest))

/-- The rest of a text that can stand between single quotes, behind a character of it: no blank stands
    beside a line end. -/
def SingleRest : Char → List Char → Prop
  | _, [] => True
  | before, c :: rest =>
    (isPrintable c = true ∧ (endsLine before && c == ' ') = false ∧
      (before == ' ' && endsLine c) = false) ∧ SingleRest c rest

section Analysed

variable {before : Char} {a : Analysis} {cs : List Char}

theorem plainRest_of_analysis (mark : (analyseRest before a cs).hasMark = false)
    (special : (analyseRest before a cs).hasSpecial = false)
    (line : (analyseRest before a cs).hasBreak = false)
    (edge : (analyseRest before a cs).hasEdge = false) : PlainRest before cs := by
  induction cs generalizing before a with
  | nil =>
      simp only [analyseRest, Bool.or_eq_false_iff, beq_eq_false_iff_ne] at edge
      exact edge.1.2
  | cons c cs ih =>
      rw [analyseRest_cons] at mark special line edge
      have within := within_analyseRest c (a.add before c cs.head?) cs
      have printable := (Bool.or_eq_false_iff.mp (within.special special)).2
      exact ⟨⟨(Bool.or_eq_false_iff.mp (within.mark mark)).2, by simpa using printable,
        (Bool.or_eq_false_iff.mp (within.line line)).2⟩, ih mark special line edge⟩

theorem singleRest_of_analysis (special : (analyseRest before a cs).hasSpecial = false)
    (first : (analyseRest before a cs).breakThenSpace = false)
    (last : (analyseRest before a cs).spaceThenBreak = false) : SingleRest before cs := by
  induction cs generalizing before a with
  | nil => trivial
  | cons c cs ih =>
      rw [analyseRest_cons] at special first last
      have within := within_analyseRest c (a.add before c cs.head?) cs
      have printable := (Bool.or_eq_false_iff.mp (within.special special)).2
      exact ⟨⟨by simpa using printable, (Bool.or_eq_false_iff.mp (within.breakThenSpace first)).2,
        (Bool.or_eq_false_iff.mp (within.spaceThenBreak last)).2⟩, ih special first last⟩

theorem printable_of_analysis (special : (analyseRest before a cs).hasSpecial = false) :
    ∀ c ∈ cs, isPrintable c = true := by
  induction cs generalizing before a with
  | nil => exact fun _ mem => nomatch mem
  | cons c cs ih =>
      rw [analyseRest_cons] at special
      have within := within_analyseRest c (a.add before c cs.head?) cs
      have printable := (Bool.or_eq_false_iff.mp (within.special special)).2
      exact List.forall_mem_cons.mpr ⟨by simpa using printable, ih special⟩

end Analysed

/-! ## 2. The ways to write a text -/

/-- **A text that can stand plainly**, by its first character and the rest. -/
structure PlainText (s : String) (c : Char) (rest : List Char) : Prop where
  whole : s.toList = c :: rest
  first : firstIsMark c rest.head? = false
  printable : isPrintable c = true
  solid : c ≠ ' '
  no_end : endsLine c = false
  later : PlainRest c rest

theorem analyse_cons (c : Char) (rest : List Char) : ∃ a : Analysis,
    analyse (c :: rest) = analyseRest c a rest ∧ (a.hasMark = false → firstIsMark c rest.head? = false) ∧
      a.hasSpecial = !isPrintable c ∧ a.hasBreak = endsLine c ∧
      a.hasEdge = (c == ' ' || endsLine c) := by
  refine ⟨_, rfl, ?_, rfl, rfl, rfl⟩
  exact fun h => (Bool.or_eq_false_iff.mp h).2

/-- What is written plainly can stand so, and means the text that it is. -/
theorem plainText_of_style {s : String} (h : styleOf s = .plain) :
    isAmbiguous s = false ∧ ∃ c rest, PlainText s c rest := by
  unfold styleOf at h
  dsimp only at h
  split at h
  · split at h <;> cases h
  · rename_i noFeed
    split at h
    · rename_i fine
      simp only [Bool.and_eq_true, Bool.not_eq_true', Bool.or_eq_false_iff] at fine
      obtain ⟨clear, ⟨⟨⟨mark, special, _⟩, edge⟩, line⟩, _⟩ := fine
      cases whole : s.toList with
      | nil =>
          rw [String.toList_eq_nil_iff.mp whole] at clear
          cases clear
      | cons c rest =>
          obtain ⟨a, analysed, first, specials, breaks, edges⟩ := analyse_cons c rest
          rw [whole, analysed] at mark special edge line
          have within := within_analyseRest c a rest
          have no_edge := within.edge edge
          rw [edges, Bool.or_eq_false_iff] at no_edge
          exact ⟨clear, c, rest,
            { whole
              first := first (within.mark mark)
              printable := by simpa [specials] using within.special special
              solid := by simpa using no_edge.1
              no_end := no_edge.2
              later := plainRest_of_analysis mark special line edge }⟩
    · split at h <;> cases h

theorem printable_of_analyse {cs : List Char} (special : (analyse cs).hasSpecial = false) :
    ∀ c ∈ cs, isPrintable c = true := by
  cases cs with
  | nil => exact fun _ mem => nomatch mem
  | cons c rest =>
      obtain ⟨a, analysed, _, specials, _⟩ := analyse_cons c rest
      rw [analysed] at special
      have own := (within_analyseRest c a rest).special special
      rw [specials] at own
      exact List.forall_mem_cons.mpr ⟨by simpa using own, printable_of_analysis special⟩

/-- **A text between single quotes** has no line feed, and no blanks beside the ends of its lines. -/
theorem singleRest_of_style {s : String} (h : styleOf s = .single) :
    '\n' ∉ s.toList ∧ SingleRest '\x27' s.toList := by
  unfold styleOf at h
  dsimp only at h
  split at h
  · split at h <;> cases h
  · rename_i noFeed
    split at h
    · cases h
    · split at h
      · cases h
      · rename_i fine
        simp only [Bool.or_eq_true, not_or, Bool.not_eq_true] at fine
        obtain ⟨⟨special, last⟩, first⟩ := fine
        rw [Bool.not_eq_true, List.contains_eq_mem, decide_eq_false_iff_not] at noFeed
        refine ⟨noFeed, ?_⟩
        cases whole : s.toList with
        | nil => trivial
        | cons c rest =>
            obtain ⟨a, analysed, _⟩ := analyse_cons c rest
            have printable := printable_of_analyse special c (whole ▸ List.mem_cons_self)
            rw [whole, analysed] at special first last
            exact ⟨⟨printable, rfl, rfl⟩, singleRest_of_analysis special first last⟩

theorem literal_of_style {s : String} (h : styleOf s = .literal) :
    s.toList ≠ [] ∧ ∀ c ∈ s.toList, isPrintable c = true := by
  unfold styleOf at h
  dsimp only at h
  split at h
  · rename_i feed
    split at h
    · cases h
    · rename_i fine
      simp only [Bool.or_eq_true, not_or, Bool.not_eq_true] at fine
      refine ⟨fun nothing => ?_, printable_of_analyse fine.1.1⟩
      rw [nothing] at feed
      cases feed
  · split at h
    · cases h
    · split at h <;> cases h

/-! ## 3. Plain scalars -/

section Characters

variable {c : Char}

theorem isSpace_of_printable (h : isPrintable c = true) : isSpace c = (c == ' ') := by
  have no_tab : c ≠ '\t' := by
    rintro rfl
    cases h
  rw [isSpace, beq_false_of_ne no_tab, Bool.or_false]

theorem endsLine_of_printable (h : isPrintable c = true) : endsLine c = isBreak c := by
  have no_return : c ≠ '\r' := by
    rintro rfl
    cases h
  have no_next : c ≠ '\u0085' := by
    rintro rfl
    revert h
    decide
  rw [endsLine, beq_false_of_ne no_return, beq_false_of_ne no_next, Bool.or_false, Bool.or_false]

theorem isBreak_of_endsLine (h : endsLine c = false) : isBreak c = false := by
  rw [endsLine, Bool.or_eq_false_iff, Bool.or_eq_false_iff] at h
  exact h.1.1

/-- What counts as white space for a writer does so for a reader. -/
theorem blankNext_of_white {cs : List Char} (h : whiteOrEnd cs.head? = false) (tail : List Char) :
    blankNext (cs ++ tail) = false := by
  cases cs with
  | nil => cases h
  | cons d rest =>
      have white : ((isSpace d || endsLine d) || d == '\x00') = false := h
      rw [Bool.or_eq_false_iff, Bool.or_eq_false_iff] at white
      rw [List.cons_append, blankNext, white.1.1, isBreak_of_endsLine white.1.2]
      rfl

end Characters

section Plain

variable {before c : Char} {indent line column : Nat} {text blanks cs rest tail : List Char}

/-- A character that is no mark where it stands is read as part of a plain scalar. -/
theorem readPlain_char (text blanks : List Char) (indent line : Nat) (no_space : isSpace c = false)
    (no_break : isBreak c = false) (inside : blanks = [] ∨ indent ≤ column ∧ c ≠ '#')
    (no_boundary : ¬(column = 0 ∧ boundaryNext (c :: rest) = true))
    (no_value : ¬(c = ':' ∧ blankNext rest = true)) :
    readPlain false indent text { blanks } line column (c :: rest) =
      readPlain false indent (c :: (blanks.reverse ++ text)) {} line (column + 1) rest := by
  have going : ¬((!Gap.isEmpty { blanks } : Bool) = true ∧
      ((!false : Bool) = true ∧ column < indent ∨ c = '#')) := by
    rintro ⟨gap, ⟨_, short⟩ | mark⟩
    · rcases inside with rfl | ⟨enough, _⟩
      · cases gap
      · omega
    · rcases inside with rfl | ⟨_, other⟩
      · cases gap
      · exact other mark
  rw [readPlain]
  simp only [no_space, no_break, Bool.false_eq_true, if_false, false_and, or_false]
  rw [if_neg going, if_neg no_boundary, if_neg no_value]
  rfl

/-- A space may belong to a plain scalar; the next character tells. -/
theorem readPlain_space (text blanks tail : List Char) (indent line column : Nat) :
    readPlain false indent text { blanks } line column (' ' :: tail) =
      readPlain false indent text { blanks := blanks ++ [' '] } line (column + 1) tail := by
  rw [readPlain]
  rfl

/-- **A character that is no mark behind the one before it** is read as part of a plain scalar. -/
theorem readPlain_inner {next : List Char} (no_mark : laterIsMark before c next.head? = false)
    (printable : isPrintable c = true) (no_break : isBreak c = false) (no_space : c ≠ ' ')
    (wide : indent ≤ column) (inner : 0 < column) (blank : blanks ≠ [] → before = ' ') :
    readPlain false indent text { blanks } line column (c :: (next ++ tail)) =
      readPlain false indent (c :: (blanks.reverse ++ text)) {} line (column + 1) (next ++ tail) := by
  rw [laterIsMark, Bool.or_eq_false_iff] at no_mark
  have solid : isSpace c = false := by
    rw [isSpace_of_printable printable, beq_false_of_ne no_space]
  have inside : blanks = [] ∨ indent ≤ column ∧ c ≠ '#' := by
    by_cases none : blanks = []
    · exact Or.inl none
    · refine Or.inr ⟨wide, ?_⟩
      rintro rfl
      rw [blank none] at no_mark
      cases no_mark.2
  have no_value : ¬(c = ':' ∧ blankNext (next ++ tail) = true) := by
    rintro ⟨rfl, white⟩
    rw [blankNext_of_white (by simpa using no_mark.1)] at white
    cases white
  exact readPlain_char _ _ _ _ solid no_break inside (by omega) no_value

/-- **The rest of a plain text is read as it is**, up to what stands behind it. -/
theorem readPlain_rest (plain : PlainRest before cs) (wide : indent ≤ column) (inner : 0 < column)
    (blank : blanks ≠ [] → before = ' ') :
    readPlain false indent text { blanks } line column (cs ++ tail) =
      readPlain false indent (cs.reverse ++ (blanks.reverse ++ text)) {} line (column + cs.length) tail := by
  induction cs generalizing before text blanks column with
  | nil =>
      have none : blanks = [] := Decidable.byContradiction fun some => plain (blank some)
      rw [none]
      rfl
  | cons c cs ih =>
      obtain ⟨⟨no_mark, printable, no_end⟩, plain⟩ := plain
      have width : column + 1 + cs.length = column + (c :: cs).length := by
        rw [List.length_cons]
        omega
      by_cases space : c = ' '
      · subst space
        rw [List.cons_append, readPlain_space, ih plain (by omega) (by omega) fun _ => rfl, width]
        simp
      · rw [List.cons_append, readPlain_inner no_mark printable (isBreak_of_endsLine no_end) space wide
          inner blank]
        show readPlain _ _ _ { blanks := [] } _ _ _ = _
        rw [ih plain (by omega) (by omega) (absurd rfl), width]
        simp

/-- What begins a token or nothing at all. -/
def Opens (cs : List Char) : Prop :=
  ∀ c rest, cs = c :: rest → isSpace c = false ∧ isBreak c = false ∧ c ≠ '#' ∧ c ≠ byteOrderMark

/-- **A plain text is read as it is**, up to what stands behind it. -/
theorem readPlain_plainText {s : String} (plain : PlainText s c rest) (wide : indent ≤ column + 1)
    (no_boundary : ¬(column = 0 ∧ boundaryNext (s.toList ++ tail) = true)) :
    readPlain false indent [] {} line column (s.toList ++ tail) =
      readPlain false indent s.toList.reverse {} line (column + s.toList.length) tail := by
  obtain ⟨whole, first, printable, solid, no_end, later⟩ := plain
  have width : column + 1 + rest.length = column + (c :: rest).length := by
    rw [List.length_cons]
    omega
  have no_space : isSpace c = false := by rw [isSpace_of_printable printable, beq_false_of_ne solid]
  have no_value : ¬(c = ':' ∧ blankNext (rest ++ tail) = true) := by
    rintro ⟨rfl, white⟩
    rw [firstIsMark, Bool.or_eq_false_iff] at first
    rw [blankNext_of_white (by simpa using first.2)] at white
    cases white
  rw [whole] at no_boundary ⊢
  rw [List.cons_append] at no_boundary ⊢
  have step := readPlain_char [] [] indent line no_space (isBreak_of_endsLine no_end) (Or.inl rfl)
    no_boundary no_value
  refine step.trans ?_
  show readPlain _ _ _ { blanks := [] } _ _ _ = _
  rw [readPlain_rest later wide (Nat.succ_pos _) (absurd rfl), width]
  simp

/-- A plain scalar ends at a colon before a blank or line end. -/
theorem readPlain_colon (white : blankNext rest = true) (inner : 0 < column) :
    readPlain false indent text {} line column (':' :: rest) =
      .ok (String.ofList text.reverse, ⟨':' :: rest, line, column⟩, false) := by
  rw [readPlain]
  simp [isSpace, isBreak, Gap.isEmpty, white, Nat.pos_iff_ne_zero.mp inner]

/-- A plain scalar ends at a line end before a line that is not deep enough. -/
theorem readPlain_gap (g : Gap) (crossed : g.crossed = true) (n : Nat) (shallow : column + n < indent)
    (opens : Opens tail) :
    readPlain false indent text g line column (List.replicate n ' ' ++ tail) =
      .ok (String.ofList text.reverse, ⟨tail, line, column + n⟩, true) := by
  induction n generalizing g column with
  | zero =>
      cases tail with
      | nil =>
          simp [readPlain, crossed]
      | cons c rest =>
          obtain ⟨no_space, no_break, _⟩ := opens c rest rfl
          have short : column < indent := shallow
          simp [readPlain, no_space, no_break, Gap.isEmpty, crossed, short]
  | succ n ih =>
      have step : readPlain false indent text g line column (' ' :: (List.replicate n ' ' ++ tail)) =
          readPlain false indent text (g.addSpace ' ') line (column + 1) (List.replicate n ' ' ++ tail) := by
        rw [readPlain]
        simp [isSpace]
      have same : g.addSpace ' ' = g := by rw [Gap.addSpace, if_pos crossed]
      have width : column + 1 + n = column + (n + 1) := by omega
      rw [List.replicate_succ, List.cons_append, step, same, ih g crossed (by omega), width]

theorem readPlain_line (n : Nat) (shallow : n < indent) (opens : Opens tail) :
    readPlain false indent text {} line column ('\n' :: (List.replicate n ' ' ++ tail)) =
      .ok (String.ofList text.reverse, ⟨tail, line + 1, n⟩, true) := by
  have step : readPlain false indent text {} line column ('\n' :: (List.replicate n ' ' ++ tail)) =
      readPlain false indent text (Gap.addBreak {} '\n') (line + 1) 0 (List.replicate n ' ' ++ tail) := by
    rw [readPlain]
    rfl
  rw [step, readPlain_gap _ rfl n (by omega) opens, Nat.zero_add]

end Plain

end SchemaPages.Yaml
