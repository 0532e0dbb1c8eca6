import SchemaPages.Proofs.Data.Yaml.Plain
/-!
# Blocks are read back

A block shows the lines of a text as they are, each indented. Its heading says how deep where the first
line does not show it, and what becomes of the line ends behind the last line.

* `readBlock_indented`, `readBlock_inner`, `readBlock_endLine`, `readBlock_emptyLine`: the steps;
* `Block.Behind`, `Block.HasRead`: what is open behind a character of a block, and what it holds;
* `readBlock_char`, `readBlock_lines`: characters are read back one by one;
* `chompingOf`: what becomes of the line ends behind a text;
* `readBlock_text`: a text in a block.
-/

namespace SchemaPages.Yaml

/-! ## 1. Steps -/

section Blocks

variable {b : Block} {c : Char} {line column indent n : Nat} {rest : List Char}

/-- Blanks in front of a line are passed over, as far as it is indented. -/
theorem readBlock_blanks (start : b.inLine = false)
    (within : ∀ m, b.indent = some m → column + n ≤ m) :
    readBlock b line column (blanks n ++ rest) = readBlock b line (column + n) rest := by
  induction n generalizing column with
  | zero => rfl
  | succ n ih =>
      have inside : b.indents column = true := by
        unfold Block.indents
        split
        · rename_i m deep
          have := within m deep
          exact decide_eq_true (by omega)
        · rfl
      have step : readBlock b line column (' ' :: (blanks n ++ rest)) =
          readBlock b line (column + 1) (blanks n ++ rest) := by
        rw [readBlock]
        simp [start, inside]
      have width : column + 1 + n = column + (n + 1) := by omega
      rw [blanks, List.replicate_succ, List.cons_append, ← blanks, step, ih, width]
      intro m deep
      have := within m deep
      omega

/-- A line of a block begins where it is indented. -/
theorem readBlock_begin (start : b.inLine = false) (no_end : endsLine c = false)
    (deep : b.indent.getD (max (max b.deepest column) b.least) = column)
    (inside : b.indents column = true → c ≠ ' ' ∧ c ≠ '\t') :
    readBlock b line column (c :: rest) =
      readBlock ({ b with deepest := max b.deepest column, indent := some column }.begin c) line
        (column + 1) rest := by
  have no_break := isBreak_of_endsLine no_end
  have no_space : ¬(b.indents column = true ∧ c = ' ') := fun h => (inside h.1).1 h.2
  have no_tab : ¬(b.indents column = true ∧ c = '\t') := fun h => (inside h.1).2 h.2
  rw [readBlock]
  simp only [start, Bool.false_eq_true, if_false, no_break, deep]
  rw [if_neg no_space, if_neg no_tab, if_pos trivial]

/-- A line of a block begins behind its indentation. -/
theorem readBlock_indented (line : Nat) (start : b.inLine = false) (no_end : endsLine c = false)
    (within : ∀ m, b.indent = some m → indent ≤ m)
    (deep : b.indent.getD (max (max b.deepest indent) b.least) = indent)
    (inside : b.indents indent = true → c ≠ ' ' ∧ c ≠ '\t') (rest : List Char) :
    readBlock b line 0 (blanks indent ++ c :: rest) =
      readBlock ({ b with deepest := max b.deepest indent, indent := some indent }.begin c) line
        (indent + 1) rest := by
  have passed : readBlock b line 0 (blanks indent ++ c :: rest) =
      readBlock b line indent (c :: rest) := by
    rw [readBlock_blanks start fun m known => by simpa using within m known, Nat.zero_add]
  exact passed.trans (readBlock_begin start no_end deep inside)

/-- The end of a line that has text. -/
theorem readBlock_endLine (line column : Nat) (inLine : b.inLine = true) (line_end : isBreak c = true)
    (rest : List Char) : readBlock b line column (c :: rest) =
      readBlock { b with inLine := false, lineEnd := [c] } (line + 1) 0 rest := by
  rw [readBlock, if_pos inLine, if_pos line_end]

/-- The end of an empty line. -/
theorem readBlock_emptyLine (line column : Nat) (start : b.inLine = false)
    (line_end : isBreak c = true) (rest : List Char) : readBlock b line column (c :: rest) =
      readBlock { b with deepest := max b.deepest column, blankLines := c :: b.blankLines }
        (line + 1) 0 rest := by
  have no_space : c ≠ ' ' := by
    rintro rfl
    cases line_end
  have no_tab : c ≠ '\t' := by
    rintro rfl
    cases line_end
  rw [readBlock]
  simp [start, no_space, no_tab, line_end]

/-- A character within a line. -/
theorem readBlock_inner (line column : Nat) (inLine : b.inLine = true) (no_break : isBreak c = false)
    (rest : List Char) : readBlock b line column (c :: rest) =
      readBlock { b with text := c :: b.text } line (column + 1) rest := by
  rw [readBlock, if_pos inLine, if_neg (by simp [no_break])]

end Blocks

/-! ## 2. What has been read -/

/-- What is held of a block, the ends of its lines included. -/
def Block.held (b : Block) : List Char := (b.blankLines ++ (b.lineEnd ++ b.text)).reverse

/-- **A block behind a character of it**: a line begins if the character ends one, and what is open in
    a line has no line end behind it. -/
structure Block.Behind (b : Block) (indent : Nat) (before : Char) : Prop where
  literal : b.literal = true
  deep : b.indent = some indent
  inLine : b.inLine = !endsLine before
  lineEnd : b.inLine = true → b.lineEnd = []
  blankLines : b.inLine = true → b.blankLines = []

/-- **A block that has read some characters**: it holds them and is behind the last one, at the margin
    where a line begins. -/
structure Block.HasRead (b : Block) (chomping : Chomping) (indent column : Nat) (last : Char)
    (cs : List Char) : Prop extends b.Behind indent last where
  held : b.held = cs
  chomping : b.chomping = chomping
  margin : b.inLine = false → column = 0

section Reading

variable {b : Block} {chomping : Chomping} {indent column : Nat} {before c : Char}
  {cs more : List Char}

/-- The first character of a line is read, whether or not it is known before how deep lines are
    indented. -/
theorem Block.hasRead_begin (literal : b.literal = true) (deep : b.indent = some indent)
    (no_end : endsLine c = false) :
    (b.begin c).HasRead b.chomping indent (indent + 1) c (b.held ++ [c]) where
  literal := literal
  deep := deep
  inLine := by rw [no_end]; rfl
  lineEnd := fun _ => rfl
  blankLines := fun _ => rfl
  held := by simp [Block.held, Block.begin, literal]
  chomping := rfl
  margin := nofun

/-- The first character of a further line is read. -/
theorem Block.HasRead.beginLine (h : b.HasRead chomping indent column before cs)
    (no_end : endsLine c = false) :
    (({ b with deepest := max b.deepest indent, indent := some indent } : Block).begin c).HasRead
      chomping indent (indent + 1) c (cs ++ [c]) := by
  have begun := Block.hasRead_begin
    (b := { b with deepest := max b.deepest indent, indent := some indent }) h.literal rfl no_end
  have held : Block.held { b with deepest := max b.deepest indent, indent := some indent } = cs :=
    h.held
  rw [held] at begun
  exact { begun with chomping := h.chomping }

/-- The end of a line that has text is read. -/
theorem Block.HasRead.endLine (h : b.HasRead chomping indent column before cs)
    (inLine : b.inLine = true) (ends : endsLine c = true) :
    ({ b with inLine := false, lineEnd := [c] } : Block).HasRead chomping indent 0 c (cs ++ [c]) where
  literal := h.literal
  deep := h.deep
  inLine := by rw [ends]; rfl
  lineEnd := nofun
  blankLines := nofun
  held := by simp [← h.held, Block.held, h.lineEnd inLine, h.blankLines inLine]
  chomping := h.chomping
  margin := fun _ => rfl

/-- The end of an empty line is read. -/
theorem Block.HasRead.emptyLine (h : b.HasRead chomping indent column before cs)
    (start : b.inLine = false) (ends : endsLine c = true) :
    ({ b with deepest := max b.deepest column, blankLines := c :: b.blankLines } : Block).HasRead
      chomping indent 0 c (cs ++ [c]) where
  literal := h.literal
  deep := h.deep
  inLine := by rw [ends]; exact start
  lineEnd := fun inLine => absurd (start.symm.trans inLine) Bool.false_ne_true
  blankLines := fun inLine => absurd (start.symm.trans inLine) Bool.false_ne_true
  held := by simp [← h.held, Block.held]
  chomping := h.chomping
  margin := fun _ => rfl

/-- A character within a line is read. -/
theorem Block.HasRead.inner (h : b.HasRead chomping indent column before cs)
    (inLine : b.inLine = true) (no_end : endsLine c = false) :
    ({ b with text := c :: b.text } : Block).HasRead chomping indent (column + 1) c (cs ++ [c]) where
  literal := h.literal
  deep := h.deep
  inLine := by rw [no_end]; exact inLine
  lineEnd := h.lineEnd
  blankLines := h.blankLines
  held := by simp [← h.held, Block.held, h.lineEnd inLine, h.blankLines inLine]
  chomping := h.chomping
  margin := fun start => absurd (start.symm.trans inLine) Bool.false_ne_true

/-- **A character of a block is read back**, with the blanks in front of its line. -/
theorem readBlock_char (line : Nat) (h : b.HasRead chomping indent column before cs)
    (printable : isPrintable c = true) :
    ∃ b' line' column', b'.HasRead chomping indent column' c (cs ++ [c]) ∧
      (b.inLine = true → b'.blankLines = []) ∧ ∀ rest,
      readBlock b line column
          ((if endsLine before && !endsLine c then blanks indent else []) ++ c :: rest) =
        readBlock b' line' column' rest := by
  have here : endsLine before = !b.inLine := by rw [h.inLine, Bool.not_not]
  rw [here]
  cases ends : endsLine c with
  | true =>
      have line_end : isBreak c = true := endsLine_of_printable printable ▸ ends
      rw [Bool.not_true, Bool.and_false]
      cases inLine : b.inLine with
      | true =>
          exact ⟨_, _, _, h.endLine inLine ends, fun _ => h.blankLines inLine,
            readBlock_endLine line column inLine line_end⟩
      | false =>
          exact ⟨_, _, _, h.emptyLine inLine ends, nofun,
            readBlock_emptyLine line column inLine line_end⟩
  | false =>
      cases inLine : b.inLine with
      | true =>
          exact ⟨_, _, _, h.inner inLine ends, fun _ => h.blankLines inLine,
            readBlock_inner line column inLine (isBreak_of_endsLine ends)⟩
      | false =>
          obtain rfl := h.margin inLine
          have deep := h.deep
          have margin : b.indents indent = false := by simp [Block.indents, deep]
          refine ⟨_, line, _, h.beginLine ends, nofun, ?_⟩
          refine readBlock_indented line inLine ends (fun m known => ?_) (by rw [deep]; rfl) ?_
          · rw [deep] at known
            exact Nat.le_of_eq (Option.some.inj known)
          · exact fun inside => absurd (margin.symm.trans inside) Bool.false_ne_true

theorem indentLines_cons (indent : Nat) (atStart : Bool) (c : Char) (cs : List Char) :
    indentLines indent atStart (c :: cs) = (if atStart && !endsLine c then blanks indent else []) ++
      c :: indentLines indent (endsLine c) cs := by
  cases ends : endsLine c with
  | true => simp [indentLines, ends]
  | false => simp [indentLines, ends]

theorem indentLines_append (indent : Nat) (before : Char) (cs more : List Char) :
    indentLines indent (endsLine before) (cs ++ more) = indentLines indent (endsLine before) cs ++
      indentLines indent (endsLine (cs.getLastD before)) more := by
  induction cs generalizing before with
  | nil => rfl
  | cons c cs ih =>
      rw [List.cons_append, indentLines_cons, ih c, indentLines_cons, List.getLastD_cons,
        List.append_assoc, List.cons_append]

/-- **A text in a block is read back**, line by line. -/
theorem readBlock_lines (line : Nat) (h : b.HasRead chomping indent column before cs)
    (printable : ∀ c ∈ more, isPrintable c = true) :
    ∃ b' line' column', b'.HasRead chomping indent column' (more.getLastD before) (cs ++ more) ∧
      ∀ rest, readBlock b line column (indentLines indent (endsLine before) more ++ rest) =
        readBlock b' line' column' rest := by
  induction more generalizing b before line column cs with
  | nil =>
      rw [List.append_nil]
      exact ⟨b, line, column, h, fun _ => rfl⟩
  | cons c more ih =>
      obtain ⟨first, others⟩ := List.forall_mem_cons.mp printable
      obtain ⟨b₁, line₁, column₁, h₁, -, read₁⟩ := readBlock_char line h first
      obtain ⟨b₂, line₂, column₂, h₂, read₂⟩ := ih line₁ h₁ others
      rw [List.append_assoc, List.singleton_append] at h₂
      rw [List.getLastD_cons]
      refine ⟨b₂, line₂, column₂, h₂, fun rest => ?_⟩
      rw [indentLines_cons, List.append_assoc, List.cons_append, read₁, read₂]

/-- A block before its first character; its indentation is known if a hint has told it. -/
def blockAt (chomping : Chomping) (hint : Bool) (indent least : Nat) : Block where
  literal := true
  chomping := chomping
  indent := if hint then some indent else none
  least := least

/-- Whether the first line of a text would not show how deep it is indented. -/
def hidesIndent (c : Char) : Bool := c == ' ' || endsLine c

/-- The first character of a block shows how deep it is indented, or a hint has told it. -/
theorem readBlock_first (chomping : Chomping) (line : Nat) {least : Nat} (shallow : least ≤ indent)
    (printable : isPrintable c = true) :
    ∃ b' line' column', b'.HasRead chomping indent column' c [c] ∧ ∀ rest,
      readBlock (blockAt chomping (hidesIndent c) indent least) line 0
          ((if !endsLine c then blanks indent else []) ++ c :: rest) =
        readBlock b' line' column' rest := by
  cases hint : hidesIndent c with
  | true =>
      have unread : (blockAt chomping true indent least).HasRead chomping indent 0 '\n' [] :=
        ⟨⟨rfl, rfl, rfl, nofun, nofun⟩, rfl, rfl, fun _ => rfl⟩
      obtain ⟨b', line', column', h, -, read⟩ := readBlock_char line unread printable
      exact ⟨b', line', column', h, read⟩
  | false =>
      rw [hidesIndent, Bool.or_eq_false_iff, beq_eq_false_iff_ne] at hint
      obtain ⟨no_space, no_end⟩ := hint
      have no_tab : c ≠ '\t' := by
        rintro rfl
        cases printable
      have deep : max (max 0 indent) least = indent := by omega
      rw [no_end]
      exact ⟨_, _, _, Block.hasRead_begin rfl rfl no_end,
        readBlock_indented line rfl no_end nofun deep fun _ => ⟨no_space, no_tab⟩⟩

/-- **A block is read through** to its last character. -/
theorem readBlock_through (chomping : Chomping) (line : Nat) {least : Nat} (shallow : least ≤ indent)
    (printable : ∀ c ∈ cs, isPrintable c = true) (filled : cs ≠ []) :
    ∃ b' line' column', b'.HasRead chomping indent column' (cs.getLast filled) cs ∧ ∀ rest,
      readBlock (blockAt chomping (cs.head?.any hidesIndent) indent least) line 0
          (indentLines indent true cs ++ rest) = readBlock b' line' column' rest := by
  cases cs with
  | nil => exact absurd rfl filled
  | cons c cs =>
      obtain ⟨first, others⟩ := List.forall_mem_cons.mp printable
      obtain ⟨b₁, line₁, column₁, h₁, read₁⟩ := readBlock_first chomping line shallow first
      obtain ⟨b₂, line₂, column₂, h₂, read₂⟩ := readBlock_lines line₁ h₁ others
      rw [List.getLast_eq_getLastD]
      refine ⟨b₂, line₂, column₂, h₂, fun rest => ?_⟩
      rw [indentLines_cons, Bool.true_and, List.append_assoc, List.cons_append]
      exact (read₁ _).trans (read₂ rest)

end Reading

/-! ## 3. Whole blocks -/

section Wholes

variable {b : Block} {chomping : Chomping} {indent column least n : Nat} {last : Char}
  {cs init tail : List Char}

/-- A block ends at a line that is not deep enough. -/
theorem readBlock_close (line : Nat) (start : b.inLine = false)
    (deep : b.indent = some indent)
    (shallow : n < indent) (opens : Opens tail) :
    readBlock b line 0 (blanks n ++ tail) = .ok (b.close, ⟨tail, line, n⟩) := by
  rw [readBlock_blanks start, Nat.zero_add]
  · cases tail with
    | nil => rw [readBlock]
    | cons c rest =>
        obtain ⟨no_space, no_break, _⟩ := opens c rest rfl
        rw [isSpace, Bool.or_eq_false_iff, beq_eq_false_iff_ne, beq_eq_false_iff_ne] at no_space
        rw [readBlock]
        simp [start, no_space, no_break, deep, Nat.ne_of_lt shallow]
        rfl
  · intro m known
    rw [deep] at known
    obtain rfl := Option.some.inj known
    omega

/-- What becomes of the line ends behind a text. -/
def chompingOf (cs : List Char) : Chomping :=
  match cs.reverse with
  | [] => .strip
  | last :: before =>
    if endsLine last then (if before.head?.all endsLine then .keep else .clip) else .strip

theorem chompingOf_concat (init : List Char) (last : Char) : chompingOf (init ++ [last]) =
    if endsLine last then (if init.getLast?.all endsLine then .keep else .clip) else .strip := by
  simp [chompingOf]

/-- Behind a single line end there are no blank lines. -/
theorem readBlock_lastLine (chomping : Chomping) (line : Nat) (within : least ≤ indent)
    (printable : ∀ c ∈ init ++ [last], isPrintable c = true) (filled : init ≠ [])
    (inner : endsLine (init.getLast filled) = false) :
    ∃ b' line' column', b'.HasRead chomping indent column' last (init ++ [last]) ∧
      b'.blankLines = [] ∧ ∀ rest,
      readBlock (blockAt chomping ((init ++ [last]).head?.any hidesIndent) indent least) line 0
          (indentLines indent true (init ++ [last]) ++ rest) = readBlock b' line' column' rest := by
  obtain ⟨before, final⟩ := List.forall_mem_append.mp printable
  obtain ⟨b, line₁, column, h, read⟩ := readBlock_through chomping line within before filled
  obtain ⟨b', line', column', h', lines, read'⟩ :=
    readBlock_char line₁ h (final last List.mem_cons_self)
  have inLine : b.inLine = true := by rw [h.inLine, inner]; rfl
  refine ⟨b', line', column', h', lines inLine, fun rest => ?_⟩
  have parts := indentLines_append indent '\n' init [last]
  obtain ⟨same, first⟩ : init.getLastD '\n' = init.getLast filled ∧
      (init ++ [last]).head? = init.head? := by
    cases init with
    | nil => exact absurd rfl filled
    | cons c cs => exact ⟨by rw [List.getLast_eq_getLastD, List.getLastD_cons], rfl⟩
  have start_line : endsLine '\n' = true := rfl
  rw [same, start_line, indentLines_cons] at parts
  rw [first, parts, List.append_assoc, read, List.append_assoc]
  exact read' rest

/-- Behind the end of a line a block ends, if the next line is not deep enough. -/
theorem Block.HasRead.closes (h : b.HasRead chomping indent column last cs)
    (ends : endsLine last = true) (line : Nat) (shallow : n < indent) (opens : Opens tail) :
    readBlock b line column (blanks n ++ tail) = .ok (b.close, ⟨tail, line, n⟩) := by
  have start : b.inLine = false := by rw [h.inLine, ends]; rfl
  obtain rfl := h.margin start
  exact readBlock_close line start h.deep shallow opens

theorem Block.HasRead.close_keep (h : b.HasRead .keep indent column last cs) :
    b.close = String.ofList cs := by
  simp [← h.held, Block.close, Block.held, h.chomping]

theorem Block.HasRead.close_clip (h : b.HasRead .clip indent column last cs)
    (no_lines : b.blankLines = []) : b.close = String.ofList cs := by
  simp [← h.held, Block.close, Block.held, h.chomping, no_lines]

/-- The end that an open line gets is taken off again. -/
theorem Block.HasRead.close_strip (h : b.HasRead .strip indent column last cs)
    (inLine : b.inLine = true) :
    ({ b with inLine := false, lineEnd := ['\n'] } : Block).close = String.ofList cs := by
  simp [← h.held, Block.close, Block.held, h.chomping, h.lineEnd inLine, h.blankLines inLine]

/-- **A text in a block is read back**, up to a line that is not deep enough. -/
theorem readBlock_text (line : Nat) (within : least ≤ indent)
    (printable : ∀ c ∈ init ++ [last], isPrintable c = true) (shallow : n < indent)
    (opens : Opens tail) :
    ∃ line', readBlock (blockAt (chompingOf (init ++ [last])) ((init ++ [last]).head?.any hidesIndent)
        indent least) line 0 (indentLines indent true (init ++ [last]) ++
          ((if endsLine last then [] else ['\n']) ++ (blanks n ++ tail))) =
      .ok (String.ofList (init ++ [last]), ⟨tail, line', n⟩) := by
  have chomped := chompingOf_concat init last
  have through := readBlock_through (chompingOf (init ++ [last])) line within printable (by simp)
  rw [List.getLast_concat] at through
  cases ends : endsLine last with
  | false =>
      -- the line that is open gets an end
      rw [ends, if_neg Bool.false_ne_true] at chomped
      rw [chomped] at through ⊢
      obtain ⟨b, line₁, column, h, read⟩ := through
      have inLine : b.inLine = true := by rw [h.inLine, ends]; rfl
      have closed := (h.endLine (c := '\n') inLine rfl).closes rfl (line₁ + 1) shallow opens
      refine ⟨line₁ + 1, ?_⟩
      rw [read, if_neg Bool.false_ne_true, List.singleton_append,
        readBlock_endLine line₁ column inLine rfl, closed, h.close_strip inLine]
  | true =>
      rw [ends, if_pos rfl] at chomped
      cases several : init.getLast?.all endsLine with
      | true =>
          -- all line ends are kept
          rw [several, if_pos rfl] at chomped
          rw [chomped] at through ⊢
          obtain ⟨b, line₁, column, h, read⟩ := through
          refine ⟨line₁, ?_⟩
          rw [read, if_pos rfl, List.nil_append, h.closes ends line₁ shallow opens, h.close_keep]
      | false =>
          -- the only line end is the one that stays
          rw [several, if_neg Bool.false_ne_true] at chomped
          have filled : init ≠ [] := by
            rintro rfl
            cases several
          rw [List.getLast?_eq_some_getLast filled] at several
          obtain ⟨b, line₁, column, h, no_lines, read⟩ :=
            readBlock_lastLine .clip line within printable filled several
          refine ⟨line₁, ?_⟩
          rw [chomped, read, if_pos rfl, List.nil_append, h.closes ends line₁ shallow opens,
            h.close_clip no_lines]

end Wholes

end SchemaPages.Yaml
