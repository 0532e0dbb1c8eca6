import SchemaPages.Data.Yaml.Printer
import SchemaPages.Proofs.Data.Tables
import SchemaPages.Proofs.Data.Yaml.Tokens
/-!
# Values without parts are cut into tokens

What stands on the rest of a line, behind a dash or a colon, is taken as one scalar, or as two brackets
with nothing between them. A block of lines and what a quoted text breaks belong to it.

* `leafScalar`: the style and text that a value without parts is read as;
* `textLine_plain`, `textLine_single`, `textLine_double`, `textLine_literal`: what is written of a text;
* `Scanner.Awaits`: all tokens from the beginning of a line on;
* `Scanner.Takes`, `Scanner.takes_text`: a text is taken from its line, in every style;
* `Scanner.scans_scalar`, `Scanner.scans_brackets`: values without parts.
-/

namespace SchemaPages.Yaml

/-! ## 1. Values and texts -/

/-- How a text is read that is written in a style. -/
def readStyle : Style → ScalarStyle
  | .plain => .plain
  | .literal => .block
  | _ => .quoted

/-- The style and text that a value without parts is read as. -/
def leafScalar : Value → ScalarStyle × String
  | .bool b => (.plain, if b then "true" else "false")
  | .str s => (readStyle (styleOf s), s)
  | _ => (.plain, "null")

theorem plainText_null : PlainText "null" 'n' "ull".toList :=
  ⟨rfl, by decide, by decide, by decide, by decide, by decide⟩

theorem plainText_true : PlainText "true" 't' "rue".toList :=
  ⟨rfl, by decide, by decide, by decide, by decide, by decide⟩

theorem plainText_false : PlainText "false" 'f' "alse".toList :=
  ⟨rfl, by decide, by decide, by decide, by decide, by decide⟩

/-- The mark of what becomes of the line ends behind a block. -/
def chompMark : Chomping → List Char
  | .strip => ['-']
  | .clip => []
  | .keep => ['+']

theorem blockHeading_eq (cs : List Char) : blockHeading cs =
    '|' :: ((if cs.head?.any hidesIndent then ['2'] else []) ++ chompMark (chompingOf cs)) := by
  unfold blockHeading
  dsimp only
  rw [← List.cons_append]
  congr 1
  · cases cs <;> rfl
  · unfold chompingOf
    cases cs.reverse with
    | nil => rfl
    | cons last before =>
        cases before with
        | nil => cases h : endsLine last <;> simp [h, chompMark]
        | cons d ds => cases h : endsLine last <;> cases h' : endsLine d <;> simp [h, h', chompMark]

section Texts

variable {text : String}

theorem textLine_plain (style : styleOf text = .plain) (indent : Nat) :
    textLine indent text = text.toList ++ ['\n'] := by
  unfold textLine
  dsimp only
  rw [style]

theorem textLine_single (style : styleOf text = .single) (indent : Nat) :
    textLine indent text = singleQuoted (indent + 2) text.toList ++ ['\n'] := by
  unfold textLine
  dsimp only
  rw [style]

theorem textLine_double (style : styleOf text = .double) (indent : Nat) :
    textLine indent text = '"' :: (text.toList.flatMap doubleQuotedChar ++ ['"', '\n']) := by
  unfold textLine
  dsimp only
  rw [style]
  rfl

/-- The lines of a text in a block, the last of which has an end. -/
theorem textLine_literal {init : List Char} {last : Char} (style : styleOf text = .literal)
    (whole : text.toList = init ++ [last]) (indent : Nat) :
    textLine indent text = blockHeading text.toList ++
      '\n' :: (indentLines (indent + 2) true text.toList ++ (if endsLine last then [] else ['\n'])) := by
  have final : text.toList.getLast? = some last := by rw [whole, List.getLast?_concat]
  unfold textLine
  dsimp only
  rw [style]
  dsimp only
  rw [final]
  cases ends : endsLine last <;> simp [ends]

end Texts

namespace Scanner

variable {tokens out : List Token} {indents : List Int} {c : Char} {rest tail : List Char}
  {line column n indent : Nat} {keyAllowed : Bool}

/-! ## 2. Scalars -/

/-- **A scalar is taken** from what stands behind a mark, with its line. -/
def Takes (keyAllowed : Bool) (line column indent : Nat) (tokens : List Token) (indents : List Int)
    (cs : List Char) (style : ScalarStyle) (text : String) : Prop :=
  cs ≠ [] ∧ ∀ n tail, n ≤ indent → Opens tail → Opens (cs ++ (blanks n ++ tail)) ∧
    ∃ c rest s line', cs ++ (blanks n ++ tail) = c :: rest ∧
      (behind keyAllowed ⟨cs ++ (blanks n ++ tail), line, column⟩ tokens indent indents).take c rest =
        .ok s ∧
      Arrives s (start ⟨tail, line', n⟩ (.scalar style text :: tokens) indent indents)

theorem takes_plain {text : String} (plain : PlainText text c rest) (inner : indent < column) :
    Takes keyAllowed line column indent tokens indents (text.toList ++ ['\n']) .plain text := by
  refine ⟨by simp, fun n tail within opens => ?_⟩
  refine ⟨by rw [List.append_assoc]; exact opens_plainText plain _, c, rest ++ '\n' :: (blanks n ++ tail),
    { start ⟨tail, line + 1, n⟩ (.scalar .plain text :: tokens) indent indents with
      places := [placeAt keyAllowed ⟨text.toList ++ ['\n'] ++ (blanks n ++ tail), line, column⟩ indent
        tokens.length] },
    line + 1, ?_, ?_, ?_⟩
  · rw [plain.whole, List.append_assoc]
    rfl
  · have read : readPlain false ((indent : Int) + 1).toNat [] {} line column
        (text.toList ++ ['\n'] ++ (blanks n ++ tail)) = .ok (text, ⟨tail, line + 1, n⟩, true) := by
      have wide : ((indent : Int) + 1).toNat ≤ column + 1 := by omega
      rw [List.append_assoc, readPlain_plainText plain wide (by omega), List.singleton_append, blanks,
        readPlain_line n (by omega) opens, List.reverse_reverse, String.ofList_toList]
    rw [take_plainText plain _ rfl (fun none => absurd none (by show column ≠ 0; omega)), Scanner.plain,
      savePlace_behind]
    show (readPlain false ((indent : Int) + 1).toNat [] {} line column
      (text.toList ++ ['\n'] ++ (blanks n ++ tail))).bind _ = _
    rw [read]
    rfl
  · unfold Arrives
    rw [toNext_opens _ opens]
    refine dropStalePlaces_later rfl fun p hp => ?_
    obtain ⟨here, optional⟩ := stale_placeAt (Int.ofNat_lt.mpr inner) hp
    exact ⟨here ▸ Nat.lt_succ_self _, optional⟩

/-- The mark that stands around a quoted scalar. -/
def quoteMark (single : Bool) : Char := if single then '\x27' else '"'

theorem take_quoteMark (s : Scanner) (single : Bool) (rest : List Char) :
    s.take (quoteMark single) rest = s.quoted single := by
  cases single
  · unfold take
    simp [quoteMark, boundaryNext]
  · unfold take
    simp [quoteMark, boundaryNext]

/-- What is taken from between quotes, with the end of its line. -/
theorem takes_quoted {text : String} (single : Bool) (cs : List Char) (inner : indent < column)
    (read : ∀ tail, ∃ line' column', readQuoted single {} line (column + 1) (cs ++ '\n' :: tail) =
      .ok (text, ⟨'\n' :: tail, line', column'⟩)) :
    Takes keyAllowed line column indent tokens indents (quoteMark single :: (cs ++ ['\n'])) .quoted
      text := by
  refine ⟨List.cons_ne_nil _ _, fun n tail within opens => ?_⟩
  obtain ⟨line', column', found⟩ := read (blanks n ++ tail)
  have later : line ≤ line' := line_le_of_readQuoted found
  refine ⟨opens_mark (by cases single <;> decide) _, _, _,
    { behind false ⟨'\n' :: (blanks n ++ tail), line', column'⟩ (.scalar .quoted text :: tokens) indent
        indents with
      places := [placeAt keyAllowed
        ⟨quoteMark single :: (cs ++ ['\n']) ++ (blanks n ++ tail), line, column⟩ indent tokens.length] },
    line' + 1, rfl, ?_, ?_⟩
  · rw [take_quoteMark, Scanner.quoted, savePlace_behind]
    show (readQuoted single {} line (column + 1) (cs ++ ['\n'] ++ (blanks n ++ tail))).bind _ = _
    rw [List.append_assoc, List.singleton_append, found]
    rfl
  · refine arrives_line opens _ rfl rfl rfl fun p hp => ?_
    obtain ⟨here, optional⟩ := stale_placeAt (Int.ofNat_lt.mpr inner) hp
    exact ⟨here ▸ later, optional⟩

/-- **A text between double quotes is taken.** -/
theorem takes_double (text : String) (inner : indent < column) :
    Takes keyAllowed line column indent tokens indents
      ('"' :: (text.toList.flatMap doubleQuotedChar ++ ['"', '\n'])) .quoted text := by
  have quoted : Takes keyAllowed line column indent tokens indents
      (quoteMark false :: (text.toList.flatMap doubleQuotedChar ++ ['"'] ++ ['\n'])) .quoted text :=
    takes_quoted false _ inner ?_
  · rw [List.append_assoc] at quoted
    exact quoted
  · intro tail
    have inline : Quoted.Inline {} := ⟨rfl, rfl⟩
    obtain ⟨column', read⟩ := readQuoted_doubleQuoted line text.toList ('\n' :: tail) inline
      (Nat.succ_pos column)
    refine ⟨line, column', ?_⟩
    rw [List.append_assoc, List.singleton_append, read]
    simp [Quoted.held, Gap.folded]

/-- **A text between single quotes is taken.** -/
theorem takes_single {deep : Nat} {text : String} (style : styleOf text = .single)
    (positive : 0 < deep) (inner : indent < column) :
    Takes keyAllowed line column indent tokens indents (singleQuoted deep text.toList ++ ['\n']) .quoted
      text := by
  obtain ⟨noFeed, apart⟩ := singleRest_of_style style
  rw [singleQuoted_eq, List.cons_append]
  refine takes_quoted true _ inner ?_
  · intro tail
    have opening : Quoted.HasRead {} (column + 1) '\x27' [] :=
      ⟨⟨rfl, rfl, nofun, fun _ => rfl, nofun⟩, rfl, fun _ => Nat.succ_pos column⟩
    obtain ⟨line', column', read⟩ := readQuoted_single line ('\n' :: tail) opening apart noFeed positive
      (by simp)
    refine ⟨line', column', ?_⟩
    have start_line : endsLine '\x27' = false := rfl
    rw [start_line] at read
    rw [List.append_assoc, List.append_assoc, List.singleton_append, read, List.nil_append,
      String.ofList_toList]

/-- **The heading of a block** tells how it is indented and what becomes of its last line ends. -/
theorem blockHeader_marks (hint : Bool) (m : Chomping) (line column : Nat) (tail : List Char) :
    blockHeader ⟨(if hint then ['2'] else []) ++ chompMark m ++ '\n' :: tail, line, column⟩ =
      .ok (m, if hint then 2 else 0, ⟨tail, line + 1, 0⟩) := by
  cases hint <;> cases m <;> rfl

theorem take_block (s : Scanner) (outside : s.brackets = 0) (rest : List Char) :
    s.take '|' rest = s.block true := by
  have no_brackets : s.inBrackets = false := by
    rw [inBrackets, outside]
    rfl
  unfold take
  simp [no_brackets, boundaryNext]

/-- What a block is by its heading and lines. -/
theorem block_behind {chomping : Chomping} {hint : Bool} {marks lines : List Char} {text : String}
    {after : Cursor}
    (heading : blockHeader ⟨marks, line, column + 1⟩ =
      .ok (chomping, if hint then 2 else 0, ⟨lines, line + 1, 0⟩))
    (read : readBlock (blockAt chomping hint (indent + 2) (max ((indent : Int) + 1).toNat 1)) (line + 1) 0
      lines = .ok (text, after)) :
    (behind keyAllowed ⟨'|' :: marks, line, column⟩ tokens indent indents).block true =
      .ok (start after (.scalar .block text :: tokens) indent indents) := by
  unfold block
  show (blockHeader ⟨marks, line, column + 1⟩).bind _ = _
  rw [heading]
  cases hint
  · show (readBlock (blockAt chomping false (indent + 2) (max ((indent : Int) + 1).toNat 1)) (line + 1) 0
      lines).bind _ = _
    rw [read]
    rfl
  · show (readBlock (blockAt chomping true (indent + 2) (max ((indent : Int) + 1).toNat 1)) (line + 1) 0
      lines).bind _ = _
    rw [read]
    rfl

/-- **A text in a block is taken.** -/
theorem takes_block {text : String} (style : styleOf text = .literal) :
    Takes keyAllowed line column indent tokens indents (textLine indent text) .block text := by
  obtain ⟨filled, printable⟩ := literal_of_style style
  obtain ⟨init, last, whole⟩ : ∃ init last, text.toList = init ++ [last] :=
    ⟨_, _, (List.dropLast_concat_getLast filled).symm⟩
  refine ⟨by simp [textLine_literal style whole], fun n tail within opens => ?_⟩
  have shape : textLine indent text ++ (blanks n ++ tail) = '|' ::
      ((if text.toList.head?.any hidesIndent then ['2'] else []) ++ chompMark (chompingOf text.toList) ++
        '\n' :: (indentLines (indent + 2) true text.toList ++
          ((if endsLine last then [] else ['\n']) ++ (blanks n ++ tail)))) := by
    rw [textLine_literal style whole, blockHeading_eq]
    simp only [List.cons_append, List.append_assoc]
  have least : max ((indent : Int) + 1).toNat 1 ≤ indent + 2 := by omega
  have shallow : n < indent + 2 := by omega
  rw [whole] at printable
  obtain ⟨line', read⟩ := readBlock_text (line + 1) least printable shallow opens
  rw [← whole, String.ofList_toList] at read
  refine ⟨shape ▸ opens_mark (by decide) _, '|', _,
    start ⟨tail, line', n⟩ (.scalar .block text :: tokens) indent indents, line', shape, ?_,
    arrives_opens opens true _ _ _ _ _⟩
  rw [take_block _ rfl, shape]
  exact block_behind (blockHeader_marks _ _ line (column + 1) _) read

/-- **The line of a text is taken** as a scalar of its style. -/
theorem takes_text (text : String) (inner : indent < column) :
    Takes keyAllowed line column indent tokens indents (textLine indent text) (readStyle (styleOf text))
      text := by
  cases style : styleOf text with
  | plain =>
      obtain ⟨_, c, rest, plain⟩ := plainText_of_style style
      rw [textLine_plain style]
      exact takes_plain plain inner
  | single =>
      rw [textLine_single style]
      exact takes_single style (Nat.succ_pos _) inner
  | double =>
      rw [textLine_double style]
      exact takes_double text inner
  | literal => exact takes_block style

/-- **The line of a value is taken** as a scalar. -/
theorem takes_leaf {v : Value} (leaf : v.Flat) (inner : indent < column) :
    Takes keyAllowed line column indent tokens indents (leafLine indent v) (leafScalar v).1
      (leafScalar v).2 := by
  cases v with
  | null => exact takes_plain plainText_null inner
  | bool b =>
      cases b
      · exact takes_plain plainText_false inner
      · exact takes_plain plainText_true inner
  | str s => exact takes_text s inner
  | num n => cases leaf
  | arr items => cases leaf
  | obj entries => cases leaf

/-! ## 3. Lines -/

/-- **All tokens** from the beginning of a line on, where a key may begin, if the line is indented no
    more than given. -/
def Awaits (limit : Nat) (text : List Char) (tokens : List Token) (indent : Int) (indents : List Int)
    (out : List Token) : Prop :=
  ∃ n tail, text = blanks n ++ tail ∧ n ≤ limit ∧ Opens tail ∧
    ∀ line, Scans (start ⟨tail, line, n⟩ tokens indent indents) out

/-- A scalar is taken behind its mark, and then the lines behind it. -/
theorem scans_scalar {v : Value} (flat : v.Flat) (inner : indent ≤ column)
    (later : Awaits indent rest (.scalar (leafScalar v).1 (leafScalar v).2 :: tokens) indent indents
      out) :
    Scans (behind keyAllowed ⟨' ' :: (leafLine indent v ++ rest), line, column⟩ tokens indent indents)
      out := by
  obtain ⟨n, tail, rfl, shallow, opens, later⟩ := later
  obtain ⟨filled, takes⟩ : Takes keyAllowed line (column + 1) indent tokens indents _ _ _ :=
    takes_leaf flat (Nat.lt_succ_of_le inner)
  obtain ⟨begins, c, rest, s, line', whole, taken, next⟩ := takes n tail shallow opens
  refine scans_step (arrives_blank begins keyAllowed line column tokens indent indents) whole ?_ ?_
    (scans_of_arrives next (arrives_opens opens true _ _ _ _ _) (later line'))
  · rw [unindent_inside]
    · exact taken
    · show (indent : Int) ≤ ((column + 1 : Nat) : Int)
      omega
  · have some := List.length_pos_iff.mpr filled
    rw [← cursor_of_arrives next]
    show tail.length < (leafLine indent v ++ (blanks n ++ tail)).length
    simp only [List.length_append]
    omega

/-! ## 4. Brackets -/

/-- **The two brackets** of a list or mapping without anything in it, and their tokens. -/
structure Brackets (o c : Char) (opening closing : Token) : Prop where
  takes_open : ∀ (s : Scanner) rest, s.take o rest = s.openBracket opening
  takes_close : ∀ (s : Scanner) rest, s.take c rest = s.closeBracket closing
  opens_open : ∀ rest, Opens (o :: rest)
  opens_close : ∀ rest, Opens (c :: rest)

theorem opens_bracket {d : Char} (mark : d ∈ ['[', ']', '\x7b', '\x7d']) (tail : List Char) :
    Opens (d :: tail) := by
  intro c rest same
  obtain rfl := (List.cons.inj same).1
  simp only [List.mem_cons, List.not_mem_nil, or_false] at mark
  rcases mark with rfl | rfl | rfl | rfl <;> exact ⟨rfl, rfl, by decide, by decide⟩

theorem brackets_list : Brackets '[' ']' .openList .closeList where
  takes_open _ _ := by unfold take; simp [boundaryNext]
  takes_close _ _ := by unfold take; simp [boundaryNext]
  opens_open := opens_bracket (by decide)
  opens_close := opens_bracket (by decide)

theorem brackets_mapping : Brackets '\x7b' '\x7d' .openMapping .closeMapping where
  takes_open _ _ := by unfold take; simp [boundaryNext]
  takes_close _ _ := by unfold take; simp [boundaryNext]
  opens_open := opens_bracket (by decide)
  opens_close := opens_bracket (by decide)

/-- A scanner between two brackets, with the place that was noted in front of them. -/
def between (cursor : Cursor) (tokens : List Token) (indent : Int) (indents : List Int)
    (place : Option KeyPlace) : Scanner :=
  { start cursor tokens indent indents with places := [none, place], brackets := 1 }

theorem openBracket_behind (keyAllowed : Bool) (c : Char) (rest : List Char) (line column : Nat)
    (tokens : List Token) (indent : Int) (indents : List Int) (t : Token) :
    (behind keyAllowed ⟨c :: rest, line, column⟩ tokens indent indents).openBracket t =
      .ok (between ⟨rest, line, column + 1⟩ (t :: tokens) indent indents
        (placeAt keyAllowed ⟨c :: rest, line, column⟩ indent tokens.length)) := by
  unfold openBracket
  rw [savePlace_behind]
  rfl

theorem closeBracket_between (c : Char) (rest : List Char) (line column : Nat) (tokens : List Token)
    (indent : Int) (indents : List Int) (place : Option KeyPlace) (t : Token) :
    (between ⟨c :: rest, line, column⟩ tokens indent indents place).closeBracket t =
      .ok { behind false ⟨rest, line, column + 1⟩ (t :: tokens) indent indents with
        places := [place] } := rfl

/-- A bracket comes so close behind another one that no place is given up. -/
theorem arrives_between {place : Option KeyPlace} {indent : Int} (opens : Opens tail)
    (near : ∀ p ∈ place, p.line = line ∧ column ≤ p.column + 1024) :
    Arrives (between ⟨tail, line, column⟩ tokens indent indents place)
      (between ⟨tail, line, column⟩ tokens indent indents place) := by
  unfold Arrives
  rw [toNext_opens _ opens]
  refine dropStalePlaces_fresh fun o (mem : o ∈ [none, place]) p some => ?_
  rw [List.mem_cons, List.mem_singleton] at mem
  rcases mem with rfl | rfl
  · cases some
  · exact near p some

/-- **Two brackets are taken** behind a mark, and then the lines behind them. -/
theorem scans_brackets {o c : Char} {opening closing : Token} (pair : Brackets o c opening closing)
    (inner : indent ≤ column)
    (later : Awaits indent rest (closing :: opening :: tokens) indent indents out) :
    Scans (behind keyAllowed ⟨' ' :: o :: c :: '\n' :: rest, line, column⟩ tokens indent indents) out := by
  obtain ⟨n, tail, rfl, shallow, opens, later⟩ := later
  let place := placeAt keyAllowed ⟨o :: c :: '\n' :: (blanks n ++ tail), line, column + 1⟩ indent
    tokens.length
  have deeper : (indent : Int) < ((column + 1 : Nat) : Int) := by omega
  have noted : ∀ p ∈ place, p.line = line ∧ p.required = false := fun p => stale_placeAt deeper
  have near : ∀ p ∈ place, p.line = line ∧ column + 1 + 1 ≤ p.column + 1024 := by
    intro p mem
    have same : p.column = column + 1 := column_placeAt mem
    exact ⟨(noted p mem).1, by omega⟩
  have closed : Scans (between ⟨c :: '\n' :: (blanks n ++ tail), line, column + 1 + 1⟩
      (opening :: tokens) indent indents place) out := by
    have next := arrives_line (n := n) opens
      { behind false ⟨'\n' :: (blanks n ++ tail), line, column + 1 + 1 + 1⟩ (closing :: opening :: tokens)
          indent indents with places := [place] } rfl rfl rfl
      fun p mem => ⟨Nat.le_of_eq (noted p mem).1, (noted p mem).2⟩
    refine scans_step (arrives_between (pair.opens_close _) near) rfl ?_ ?_
      (scans_of_arrives next (arrives_opens opens true _ _ _ _ _) (later (line + 1)))
    · exact (pair.takes_close _ _).trans (closeBracket_between _ _ _ _ _ _ _ _ _)
    · exact Nat.lt_succ_of_le (length_toNext_le _)
  refine scans_step (arrives_blank (pair.opens_open _) keyAllowed line column tokens indent indents) rfl
    ?_ ?_ closed
  · rw [unindent_inside (show (indent : Int) ≤ ((column + 1 : Nat) : Int) by omega), pair.takes_open]
    exact openBracket_behind _ _ _ _ _ _ _ _ _
  · exact Nat.lt_succ_of_le (length_toNext_le _)

end Scanner

end SchemaPages.Yaml
