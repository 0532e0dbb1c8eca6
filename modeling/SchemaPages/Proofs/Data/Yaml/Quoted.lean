import SchemaPages.Proofs.Data.Yaml.Plain
/-!
# Quoted scalars are read back

Between double quotes each character stands for itself, behind a backslash, or as a number. Between
single quotes lines may end, and the blanks in front of the next one do not count.

* `doubleQuotedChar_cases`: the three ways to write a character between double quotes;
* `readQuoted_raw`, `readQuoted_letter`, `readQuoted_number`: each of them is read;
* `readQuoted_doubleQuoted`: a text between double quotes;
* `Quoted.Behind`, `Quoted.HasRead`: what is open behind a character between single quotes, and what is
  held;
* `readQuoted_singleChar`, `readQuoted_single`: a character and a text between single quotes;
* `line_le_of_readQuoted`: the line on which a quoted scalar ends.
-/

namespace SchemaPages.Yaml

/-! ## 1. Between double quotes -/

/-- The number that digits of base sixteen stand for, behind the value of those before. -/
def hexRun (value : Nat) : List Char → Option Nat
  | [] => some value
  | d :: rest => (hexValue? d).bind fun digit => hexRun (value * 16 + digit) rest

theorem hexRun_two : ∀ n < 0xA0, hexRun 0 (hexPadded 2 n) = some n ∧ (hexPadded 2 n).length = 2 := by
  decide +kernel

theorem hexRun_four : ∀ n ∈ [0xFEFF, 0xFFFE, 0xFFFF],
    hexRun 0 (hexPadded 4 n) = some n ∧ (hexPadded 4 n).length = 4 := by
  decide +kernel

/-- What cannot be printed is a control character, a mark or no character at all. -/
theorem toNat_of_not_printable {c : Char} (h : isPrintable c = false) :
    c.toNat < 0xA0 ∨ c.toNat ∈ [0xFEFF, 0xFFFE, 0xFFFF] := by
  simp only [isPrintable, Bool.or_eq_false_iff, Bool.and_eq_false_iff, decide_eq_false_iff_not] at h
  simp only [List.mem_cons, List.not_mem_nil, or_false]
  omega

/-- What stands for itself between double quotes. -/
structure Raw (c : Char) : Prop where
  printable : isPrintable c = true
  no_end : endsLine c = false
  no_quote : c ≠ '"'
  no_escape : c ≠ '\\'

/-- A character with no letter that is not written as it is cannot be printed. -/
theorem not_printable_of_escaped {c : Char} (letter : letterOf? c = none)
    (raw : ¬(isPrintable c && !endsLine c && c != '"' && c != '\\') = true) :
    isPrintable c = false := by
  have other : ∀ d, letterOf? d ≠ none → c ≠ d := fun d known same => known (same ▸ letter)
  have no_break : isBreak c = false := by
    rw [isBreak, beq_false_of_ne (other _ (by decide)), beq_false_of_ne (other _ (by decide)),
      beq_false_of_ne (other _ (by decide))]
    rfl
  cases printable : isPrintable c with
  | false => rfl
  | true =>
      refine absurd ?_ raw
      rw [printable, endsLine_of_printable printable, no_break,
        bne_iff_ne.mpr (other _ (by decide)), bne_iff_ne.mpr (other _ (by decide))]
      rfl

/-- Such a character is written by its number, in two digits or in four. -/
theorem doubleQuotedChar_number {c : Char} (letter : letterOf? c = none)
    (raw : ¬(isPrintable c && !endsLine c && c != '"' && c != '\\') = true) :
    ∃ e ds, doubleQuotedChar c = '\\' :: e :: ds ∧ escapeLetter? e = none ∧ isBreak e = false ∧
      escapeWidth? e = some ds.length ∧ ds ≠ [] ∧ hexRun 0 ds = some c.toNat := by
  have written : doubleQuotedChar c = if c.toNat ≤ 0xFF then '\\' :: 'x' :: hexPadded 2 c.toNat
      else if c.toNat ≤ 0xFFFF then '\\' :: 'u' :: hexPadded 4 c.toNat
      else '\\' :: 'U' :: hexPadded 8 c.toNat := by
    rw [doubleQuotedChar, if_neg raw, letter]
  rcases toNat_of_not_printable (not_printable_of_escaped letter raw) with low | high
  · obtain ⟨number, two⟩ := hexRun_two _ low
    refine ⟨'x', _, by rw [written, if_pos (by omega)], rfl, rfl, by rw [two]; rfl, ?_, number⟩
    exact List.ne_nil_of_length_eq_add_one two
  · obtain ⟨number, four⟩ := hexRun_four _ high
    have big : 0xFF < c.toNat ∧ c.toNat ≤ 0xFFFF := by
      simp only [List.mem_cons, List.not_mem_nil, or_false] at high
      omega
    refine ⟨'u', _, by rw [written, if_neg (by omega), if_pos big.2], rfl, rfl, by rw [four]; rfl, ?_,
      number⟩
    exact List.ne_nil_of_length_eq_add_one four

/-- **Three ways to write a character between double quotes**: as it is, by its letter, or by its
    number. -/
theorem doubleQuotedChar_cases (c : Char) :
    (doubleQuotedChar c = [c] ∧ Raw c) ∨
    (∃ l, doubleQuotedChar c = ['\\', l] ∧ escapeLetter? l = some c ∧ isBreak l = false) ∨
    (∃ e ds, doubleQuotedChar c = '\\' :: e :: ds ∧ escapeLetter? e = none ∧ isBreak e = false ∧
      escapeWidth? e = some ds.length ∧ ds ≠ [] ∧ hexRun 0 ds = some c.toNat) := by
  by_cases raw : (isPrintable c && !endsLine c && c != '"' && c != '\\') = true
  · refine Or.inl ⟨if_pos raw, ?_⟩
    simp only [Bool.and_eq_true, Bool.not_eq_true', bne_iff_ne] at raw
    exact ⟨raw.1.1.1, raw.1.1.2, raw.1.2, raw.2⟩
  · cases letter : letterOf? c with
    | some l =>
        refine Or.inr (Or.inl ⟨l, by rw [doubleQuotedChar, if_neg raw, letter], ?_⟩)
        unfold letterOf? at letter
        split at letter <;> cases letter <;> decide
    | none => exact Or.inr (Or.inr (doubleQuotedChar_number letter raw))

/-- What is held of a scalar between quotes, the gap behind it included. -/
def Quoted.held (q : Quoted) : List Char := q.text.reverse ++ q.gap.folded

/-- A scalar between quotes, on its way within a line and in no escape. -/
structure Quoted.Inline (q : Quoted) : Prop where
  no_escape : q.escape = none
  same_line : q.gap.crossed = false

theorem Quoted.held_push (q : Quoted) (c : Char) : (q.push c).held = q.held ++ [c] := by
  simp [Quoted.held, Quoted.push, Quoted.flush, Gap.folded]

theorem Quoted.inline_push {q : Quoted} (h : q.escape = none) (c : Char) : (q.push c).Inline :=
  ⟨h, rfl⟩

/-- A blank within a line joins the gap. -/
theorem Quoted.held_addSpace {q : Quoted} (same_line : q.gap.crossed = false) (c : Char) :
    ({ q with gap := q.gap.addSpace c } : Quoted).held = q.held ++ [c] := by
  simp [Quoted.held, Gap.addSpace, Gap.folded, same_line]

theorem Quoted.Inline.addSpace {q : Quoted} (inline : q.Inline) (c : Char) :
    ({ q with gap := q.gap.addSpace c } : Quoted).Inline :=
  ⟨inline.no_escape, by simp [Gap.addSpace, inline.same_line]⟩

/-- A blank is read, unless a boundary between documents begins there. -/
theorem readQuoted_space {q : Quoted} {c : Char} {column : Nat} {rest : List Char} (single : Bool)
    (line : Nat) (no_escape : q.escape = none) (space : isSpace c = true)
    (no_boundary : ¬(column = 0 ∧ boundaryNext (c :: rest) = true)) :
    readQuoted single q line column (c :: rest) =
      readQuoted single { q with gap := q.gap.addSpace c } line (column + 1) rest := by
  rw [readQuoted.eq_def]
  simp only [no_escape, space]
  rw [if_neg no_boundary]
  exact if_pos trivial

section Double

variable {q : Quoted} {c : Char} {line column : Nat} {cs ds rest : List Char}

/-- The digits of an escape become its character. -/
theorem readQuoted_digits (q : Quoted) (line column : Nat) (rest : List Char) (filled : ds ≠ [])
    (value : Nat) (number : hexRun value ds = some c.toNat) :
    readQuoted false { q with escape := some (ds.length, value) } line column (ds ++ rest) =
      readQuoted false ({ q with escape := none }.push c) line (column + ds.length) rest := by
  induction ds generalizing value column with
  | nil => exact absurd rfl filled
  | cons d ds ih =>
      rw [hexRun] at number
      cases digit : hexValue? d with
      | none =>
          rw [digit] at number
          cases number
      | some n =>
          rw [digit] at number
          have step : readQuoted false { q with escape := some ((d :: ds).length, value) } line column
              (d :: ds ++ rest) = ((Quoted.digit { q with escape := some ((d :: ds).length, value) }
                (d :: ds).length value d).bind fun q => readQuoted false q line (column + 1) (ds ++ rest)) := by
            rw [List.cons_append, readQuoted.eq_def]
            rfl
          rw [step, Quoted.digit, digit]
          dsimp only
          cases ds with
          | nil =>
              have same : value * 16 + n = c.toNat := Option.some.inj number
              have valid : c.toNat.isValidChar := c.valid
              rw [if_neg (by simp), same, if_pos valid, Char.ofNat_toNat]
              rfl
          | cons d' ds =>
              rw [if_pos (by simp)]
              have width : column + 1 + (d' :: ds).length = column + (d :: d' :: ds).length := by
                simp only [List.length_cons]
                omega
              rw [← width]
              exact ih _ (List.cons_ne_nil _ _) _ number

/-- A character that stands for itself. -/
theorem readQuoted_raw (line : Nat) (no_escape : q.escape = none) (inner : 0 < column) (raw : Raw c)
    (space : c ≠ ' ') (rest : List Char) : readQuoted false q line column (c :: rest) =
      readQuoted false (q.push c) line (column + 1) rest := by
  have no_boundary : ¬(column = 0 ∧ boundaryNext (c :: rest) = true) := fun h => by omega
  have no_space : isSpace c = false := by
    rw [isSpace_of_printable raw.printable, beq_false_of_ne space]
  rw [readQuoted.eq_def]
  simp only [no_escape, no_space, isBreak_of_endsLine raw.no_end, raw.no_quote, raw.no_escape,
    Bool.false_eq_true, if_false, false_and]
  rw [if_neg no_boundary]

/-- A character by its letter. -/
theorem readQuoted_letter {l : Char} (line : Nat) (no_escape : q.escape = none) (inner : 0 < column)
    (letter : escapeLetter? l = some c) (no_break : isBreak l = false) (rest : List Char) :
    readQuoted false q line column ('\\' :: l :: rest) =
      readQuoted false (q.push c) line (column + 2) rest := by
  have no_boundary : ¬(column = 0 ∧ boundaryNext ('\\' :: l :: rest) = true) := fun h => by omega
  have no_blank : isSpace '\\' = false := rfl
  have no_line_end : isBreak '\\' = false := rfl
  rw [readQuoted.eq_def]
  simp only [no_escape]
  rw [if_neg no_boundary]
  simp [no_blank, no_line_end, no_break, letter]

/-- A character by its number. -/
theorem readQuoted_number {e : Char} (line : Nat) (no_escape : q.escape = none) (inner : 0 < column)
    (no_letter : escapeLetter? e = none) (no_break : isBreak e = false)
    (wide : escapeWidth? e = some ds.length) (filled : ds ≠ []) (number : hexRun 0 ds = some c.toNat)
    (rest : List Char) : readQuoted false q line column ('\\' :: e :: (ds ++ rest)) =
      readQuoted false ({ q.flush with escape := none }.push c) line (column + 2 + ds.length)
        rest := by
  have no_boundary : ¬(column = 0 ∧ boundaryNext ('\\' :: e :: (ds ++ rest)) = true) := fun h => by
    omega
  have no_blank : isSpace '\\' = false := rfl
  have no_line_end : isBreak '\\' = false := rfl
  have digits := readQuoted_digits q.flush line (column + 2) rest filled 0 number
  rw [readQuoted.eq_def]
  simp only [no_escape]
  rw [if_neg no_boundary]
  simp [no_blank, no_line_end, no_break, no_letter, wide, digits]

/-- **A character between double quotes is read back.** -/
theorem readQuoted_doubleQuotedChar (line : Nat) (inline : q.Inline) (inner : 0 < column) (c : Char) :
    ∃ q' column', q'.Inline ∧ q'.held = q.held ++ [c] ∧ 0 < column' ∧ ∀ rest,
      readQuoted false q line column (doubleQuotedChar c ++ rest) =
        readQuoted false q' line column' rest := by
  have no_escape := inline.no_escape
  rcases doubleQuotedChar_cases c with ⟨written, raw⟩ | ⟨l, written, letter, no_break⟩ |
    ⟨e, ds, written, no_letter, no_break, wide, filled, number⟩
  · rw [written]
    by_cases space : c = ' '
    · have blank : isSpace c = true := by rw [space]; rfl
      exact ⟨_, column + 1, inline.addSpace c, Quoted.held_addSpace inline.same_line c, by omega,
        fun rest => readQuoted_space false line no_escape blank fun h => by omega⟩
    · exact ⟨_, column + 1, Quoted.inline_push no_escape c, q.held_push c, by omega,
        readQuoted_raw line no_escape inner raw space⟩
  · rw [written]
    exact ⟨_, column + 2, Quoted.inline_push no_escape c, q.held_push c, by omega,
      readQuoted_letter line no_escape inner letter no_break⟩
  · rw [written]
    have held : ({ q.flush with escape := none } : Quoted).held = q.held := by
      simp [Quoted.held, Quoted.flush, Gap.folded]
    exact ⟨_, column + 2 + ds.length, Quoted.inline_push rfl c,
      (Quoted.held_push _ c).trans (by rw [held]), by omega,
      readQuoted_number line no_escape inner no_letter no_break wide filled number⟩

/-- **A text between double quotes is read back.** -/
theorem readQuoted_doubleQuoted (line : Nat) (cs rest : List Char) (inline : q.Inline)
    (inner : 0 < column) :
    ∃ column', readQuoted false q line column (cs.flatMap doubleQuotedChar ++ '"' :: rest) =
      .ok (String.ofList (q.held ++ cs), ⟨rest, line, column'⟩) := by
  induction cs generalizing q column with
  | nil =>
      refine ⟨column + 1, ?_⟩
      rw [List.flatMap_nil, List.nil_append, List.append_nil, readQuoted.eq_def]
      simp only [inline.no_escape]
      rw [if_neg (by omega)]
      simp [isSpace, isBreak, Quoted.held, Quoted.flush]
  | cons c cs ih =>
      obtain ⟨q', column', inline', held, inner', step⟩ :=
        readQuoted_doubleQuotedChar line inline inner c
      obtain ⟨column'', read⟩ := ih inline' inner'
      refine ⟨column'', ?_⟩
      rw [List.flatMap_cons, List.append_assoc, step, read, held, List.append_assoc]
      rfl

end Double

/-! ## 2. Between single quotes -/

/-- A character between single quotes. -/
def doubled (c : Char) : List Char := if c = '\x27' then [c, c] else [c]

/-- The lines of a text between single quotes, character by character. -/
theorem indentLines_doubled (indent : Nat) (atStart : Bool) (c : Char) (more : List Char) :
    indentLines indent atStart (doubled c ++ more) =
      (if atStart && !endsLine c then blanks indent else []) ++
        (doubled c ++ indentLines indent (endsLine c) more) := by
  by_cases quote : c = '\x27'
  · simp [doubled, quote, indentLines, endsLine, isBreak]
  · cases ends : endsLine c <;> simp [doubled, quote, indentLines, ends]

/-- A text between single quotes, with what stands in front of the last of them. -/
theorem singleQuoted_eq (indent : Nat) (cs : List Char) : singleQuoted indent cs =
    '\x27' :: (indentLines indent false (cs.flatMap doubled) ++
      ((if endsLine (cs.getLastD '\x27') then blanks indent else []) ++ ['\x27'])) := by
  rw [List.getLastD_eq_getLast?]
  unfold singleQuoted
  dsimp only
  rw [List.append_assoc]
  cases cs.getLast? with
  | none => rfl
  | some c => rfl

/-- **A scalar between single quotes behind a character of it**: a line has ended if the character ends
    one, and blanks are open only behind a blank. -/
structure Quoted.Behind (q : Quoted) (before : Char) : Prop where
  no_escape : q.escape = none
  crossed : q.gap.crossed = endsLine before
  first : q.gap.crossed = true → q.gap.first ≠ ['\n']
  fresh : q.gap.crossed = false → q.gap.more = []
  blank : q.gap.crossed = false → q.gap.blanks ≠ [] → before = ' '

/-- **A scalar between single quotes that has read some characters**: it holds them and is behind the
    last one, and is at the margin only if a line has ended. -/
structure Quoted.HasRead (q : Quoted) (column : Nat) (last : Char) (cs : List Char) : Prop
    extends q.Behind last where
  held : q.held = cs
  inner : q.gap.crossed = false → 0 < column

section Single

variable {q : Quoted} {before c : Char} {line column indent : Nat} {cs more rest : List Char}

/-- A further line end is read. -/
theorem Quoted.HasRead.addBreak_crossed (h : q.HasRead column before cs)
    (crossed : q.gap.crossed = true) (ends : endsLine c = true) :
    ({ q with gap := q.gap.addBreak c } : Quoted).HasRead 0 c (cs ++ [c]) := by
  have added : q.gap.addBreak c = { q.gap with more := q.gap.more ++ [c] } := by
    rw [Gap.addBreak, if_pos crossed]
  have not_open : ∀ {p : Prop}, q.gap.crossed = false → p := fun same =>
    absurd (crossed.symm.trans same) (by decide)
  rw [added]
  exact {
    no_escape := h.no_escape
    crossed := crossed.trans ends.symm
    first := h.first
    fresh := not_open
    blank := not_open
    held := by simp [← h.held, Quoted.held, Gap.folded, crossed, h.first crossed]
    inner := not_open }

/-- The first line end of a gap is read; no blank stands in front of it. -/
theorem Quoted.HasRead.addBreak_open (h : q.HasRead column before cs)
    (same_line : q.gap.crossed = false) (nothing : q.gap.blanks = []) (ends : endsLine c = true)
    (no_feed : c ≠ '\n') : ({ q with gap := q.gap.addBreak c } : Quoted).HasRead 0 c (cs ++ [c]) := by
  have added : q.gap.addBreak c = { q.gap with blanks := [], crossed := true, first := [c] } := by
    rw [Gap.addBreak, if_neg (by simp [same_line])]
  rw [added]
  exact {
    no_escape := h.no_escape
    crossed := ends.symm
    first := fun _ same => no_feed (List.cons.inj same).1
    fresh := nofun
    blank := nofun
    held := by
      have fresh := h.fresh same_line
      simp [← h.held, Quoted.held, Gap.folded, same_line, nothing, no_feed, fresh]
    inner := nofun }

/-- A line end is read. -/
theorem Quoted.HasRead.addBreak (h : q.HasRead column before cs) (ends : endsLine c = true)
    (no_feed : c ≠ '\n') (apart : before ≠ ' ') :
    ({ q with gap := q.gap.addBreak c } : Quoted).HasRead 0 c (cs ++ [c]) := by
  cases crossed : q.gap.crossed with
  | true => exact h.addBreak_crossed crossed ends
  | false =>
      have nothing : q.gap.blanks = [] :=
        Decidable.byContradiction fun some => apart (h.blank crossed some)
      exact h.addBreak_open crossed nothing ends no_feed

/-- A blank is read within a line. -/
theorem Quoted.HasRead.addSpace (h : q.HasRead column before cs) (same_line : q.gap.crossed = false) :
    ({ q with gap := q.gap.addSpace ' ' } : Quoted).HasRead (column + 1) ' ' (cs ++ [' ']) := by
  have held := Quoted.held_addSpace same_line ' '
  have added : q.gap.addSpace ' ' = { q.gap with blanks := q.gap.blanks ++ [' '] } := by
    rw [Gap.addSpace, if_neg (by simp [same_line])]
  rw [added] at held ⊢
  exact {
    no_escape := h.no_escape
    crossed := same_line
    first := fun crossed => absurd (same_line.symm.trans crossed) Bool.false_ne_true
    fresh := h.fresh
    blank := fun _ _ => rfl
    held := by rw [held, h.held]
    inner := fun _ => Nat.succ_pos column }

/-- A character that is neither a blank nor a line end is read. -/
theorem Quoted.HasRead.push (h : q.HasRead column before cs) (no_end : endsLine c = false)
    {column' : Nat} (inner : 0 < column') : (q.push c).HasRead column' c (cs ++ [c]) where
  no_escape := h.no_escape
  crossed := no_end.symm
  first := nofun
  fresh := fun _ => rfl
  blank := fun _ some => absurd rfl some
  held := by rw [Quoted.held_push, h.held]
  inner := fun _ => inner

theorem readQuoted_break (no_escape : q.escape = none) (line_end : isBreak c = true) :
    readQuoted true q line column (c :: rest) =
      readQuoted true { q with gap := q.gap.addBreak c } (line + 1) 0 rest := by
  have no_space : isSpace c = false := by
    cases space : isSpace c with
    | false => rfl
    | true =>
        simp only [isSpace, Bool.or_eq_true, beq_iff_eq] at space
        rcases space with rfl | rfl <;> cases line_end
  have no_boundary : boundaryNext (c :: rest) = false := by
    unfold boundaryNext
    split
    · rename_i same
      rw [(List.cons.inj same).1] at line_end
      cases line_end
    · rename_i same
      rw [(List.cons.inj same).1] at line_end
      cases line_end
    · rfl
  rw [readQuoted.eq_def]
  simp [no_escape, no_space, no_boundary, line_end]

/-- Blanks in front of a line are passed over. -/
theorem readQuoted_blanks (no_escape : q.escape = none) (crossed : q.gap.crossed = true) (n : Nat) :
    readQuoted true q line column (blanks n ++ rest) = readQuoted true q line (column + n) rest := by
  induction n generalizing column with
  | zero => rfl
  | succ n ih =>
      have same : { q with gap := q.gap.addSpace ' ' } = q := by rw [Gap.addSpace, if_pos crossed]
      have step : readQuoted true q line column (' ' :: (blanks n ++ rest)) =
          readQuoted true q line (column + 1) (blanks n ++ rest) := by
        have no_boundary : boundaryNext (' ' :: (blanks n ++ rest)) = false := rfl
        rw [readQuoted_space true line no_escape (by decide) (by simp [no_boundary]), same]
      have width : column + 1 + n = column + (n + 1) := by omega
      rw [blanks, List.replicate_succ, List.cons_append, ← blanks, step, ih, width]

/-- A character that is neither a blank nor a line end is read back, also if it is a quote. -/
theorem readQuoted_doubled (line column : Nat) (no_escape : q.escape = none) (no_space : isSpace c = false)
    (no_break : isBreak c = false) (inner : 0 < column) :
    ∃ column', 0 < column' ∧ ∀ rest, readQuoted true q line column (doubled c ++ rest) =
      readQuoted true (q.push c) line column' rest := by
  have no_boundary : ∀ cs, ¬(column = 0 ∧ boundaryNext cs = true) := fun cs h => by omega
  by_cases quote : c = '\x27'
  · refine ⟨column + 2, by omega, fun rest => ?_⟩
    subst quote
    rw [doubled, if_pos rfl, List.cons_append, List.singleton_append, readQuoted.eq_def]
    simp only [no_escape]
    rw [if_neg (no_boundary _)]
    rfl
  · refine ⟨column + 1, by omega, fun rest => ?_⟩
    rw [doubled, if_neg quote, List.singleton_append, readQuoted.eq_def]
    simp only [no_escape]
    rw [if_neg (no_boundary _)]
    simp [no_space, no_break, quote]

/-- A quote that is not followed by another ends the scalar. -/
theorem readQuoted_close (no_escape : q.escape = none) (inner : 0 < column)
    (close : rest.head? ≠ some '\x27') :
    readQuoted true q line column ('\x27' :: rest) =
      .ok (String.ofList q.held, ⟨rest, line, column + 1⟩) := by
  have no_boundary : ¬(column = 0 ∧ boundaryNext ('\x27' :: rest) = true) := fun h => by omega
  rw [readQuoted.eq_def]
  simp only [no_escape]
  rw [if_neg no_boundary]
  cases rest with
  | nil => simp [isSpace, isBreak, Quoted.held, Quoted.flush]
  | cons d rest =>
      have other : d ≠ '\x27' := fun same => close (congrArg some same)
      simp [isSpace, isBreak, Quoted.held, Quoted.flush, other]

/-- **A character between single quotes is read back**, with the blanks in front of its line. -/
theorem readQuoted_singleChar (line : Nat) (h : q.HasRead column before cs) (deep : 0 < indent)
    (printable : isPrintable c = true) (no_feed : c ≠ '\n')
    (no_space_after : (endsLine before && c == ' ') = false)
    (no_end_after : (before == ' ' && endsLine c) = false) :
    ∃ q' line' column', q'.HasRead column' c (cs ++ [c]) ∧ ∀ rest,
      readQuoted true q line column
          ((if endsLine before && !endsLine c then blanks indent else []) ++ (doubled c ++ rest)) =
        readQuoted true q' line' column' rest := by
  cases ends : endsLine c with
  | true =>
      -- a line end joins the gap
      rw [ends, Bool.and_true, beq_eq_false_iff_ne] at no_end_after
      have line_end : isBreak c = true := endsLine_of_printable printable ▸ ends
      have no_quote : c ≠ '\x27' := by
        rintro rfl
        cases ends
      rw [Bool.not_true, Bool.and_false, doubled, if_neg no_quote]
      exact ⟨_, line + 1, 0, h.addBreak ends no_feed no_end_after,
        fun rest => readQuoted_break h.no_escape line_end⟩
  | false =>
      rw [Bool.not_false, Bool.and_true]
      by_cases space : c = ' '
      · -- a blank joins the gap, in which no line has ended
        obtain rfl := space
        have uncrossed : endsLine before = false := by simpa using no_space_after
        have same_line : q.gap.crossed = false := h.crossed.trans uncrossed
        have inner := h.inner same_line
        rw [uncrossed]
        exact ⟨_, line, column + 1, h.addSpace same_line,
          fun rest => readQuoted_space true line h.no_escape rfl fun margin => by omega⟩
      · have no_space : isSpace c = false := by
          rw [isSpace_of_printable printable, beq_false_of_ne space]
        have no_break := isBreak_of_endsLine ends
        cases ended : endsLine before with
        | true =>
            have crossed : q.gap.crossed = true := h.crossed.trans ended
            obtain ⟨column', inner, read⟩ := readQuoted_doubled line (column + indent) h.no_escape
              no_space no_break (by omega)
            refine ⟨_, line, column', h.push ends inner, fun rest => ?_⟩
            rw [if_pos rfl, readQuoted_blanks h.no_escape crossed, read]
        | false =>
            have same_line : q.gap.crossed = false := h.crossed.trans ended
            obtain ⟨column', inner, read⟩ := readQuoted_doubled line column h.no_escape no_space
              no_break (h.inner same_line)
            exact ⟨_, line, column', h.push ends inner, read⟩

/-- The end of a text between single quotes, behind the blanks in front of it. -/
theorem readQuoted_end (line : Nat) (h : q.HasRead column before cs) (deep : 0 < indent)
    (close : rest.head? ≠ some '\x27') :
    ∃ column', readQuoted true q line column
      ((if endsLine before then blanks indent else []) ++ '\x27' :: rest) =
        .ok (String.ofList cs, ⟨rest, line, column'⟩) := by
  rw [← h.crossed, ← h.held]
  cases crossed : q.gap.crossed with
  | true =>
      rw [if_pos rfl, readQuoted_blanks h.no_escape crossed,
        readQuoted_close h.no_escape (by omega) close]
      exact ⟨_, rfl⟩
  | false =>
      rw [if_neg Bool.false_ne_true, List.nil_append,
        readQuoted_close h.no_escape (h.inner crossed) close]
      exact ⟨_, rfl⟩

/-- **A text between single quotes is read back.** -/
theorem readQuoted_single (line : Nat) (rest : List Char) (h : q.HasRead column before cs)
    (apart : SingleRest before more) (noFeed : '\n' ∉ more) (deep : 0 < indent)
    (close : rest.head? ≠ some '\x27') :
    ∃ line' column', readQuoted true q line column
      (indentLines indent (endsLine before) (more.flatMap doubled) ++
        ((if endsLine (more.getLastD before) then blanks indent else []) ++ '\x27' :: rest)) =
      .ok (String.ofList (cs ++ more), ⟨rest, line', column'⟩) := by
  induction more generalizing q before line column cs with
  | nil =>
      rw [List.append_nil]
      exact ⟨line, readQuoted_end line h deep close⟩
  | cons c more ih =>
      obtain ⟨⟨printable, no_space_after, no_end_after⟩, apart⟩ := apart
      obtain ⟨other, later⟩ := List.ne_and_not_mem_of_not_mem_cons noFeed
      obtain ⟨q', line', column', h', step⟩ :=
        readQuoted_singleChar line h deep printable other.symm no_space_after no_end_after
      have read := ih line' h' apart later
      rw [List.append_assoc, List.singleton_append] at read
      rw [List.flatMap_cons, List.getLastD_cons, indentLines_doubled, List.append_assoc,
        List.append_assoc, step]
      exact read

end Single

/-! ## 3. Lines -/

/-- **Reading a quoted scalar never goes back to an earlier line**: by induction on what is read. -/
theorem line_le_of_readQuoted {single : Bool} {q : Quoted} {line column : Nat} {cs : List Char}
    {text : String} {after : Cursor} (h : readQuoted single q line column cs = .ok (text, after)) :
    line ≤ after.line := by
  fun_induction readQuoted single q line column cs with
  | case2 q line column c rest left value _ ih =>
      cases digit : q.digit left value c with
      | error e =>
          rw [digit] at h
          cases h
      | ok q' =>
          rw [digit] at h
          exact ih q' h
  | case1 | case3 | case10 | case14 => cases h
  | case7 | case9 =>
      cases h
      exact Nat.le_refl _
  | case5 | case11 =>
      rename_i ih
      exact Nat.le_of_succ_le (ih h)
  | _ =>
      rename_i ih
      exact ih h

end SchemaPages.Yaml
