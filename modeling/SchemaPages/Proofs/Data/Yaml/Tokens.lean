import SchemaPages.Data.Yaml.Token
import SchemaPages.Proofs.Data.Yaml.Blocks
import SchemaPages.Proofs.Data.Yaml.Quoted
/-!
# Marks of YAML are cut into tokens

The scanner notes where a key may have begun, and puts the mark of the key there once it has come to the
colon. A key or a dash that lies deeper than the innermost block opens another; a line that does not lie
as deep as a block closes it, before its first token is taken.

* `PlainKey`: keys that need no quotes, with a letter in front;
* `Scanner.behind`, `Scanner.start`: the scanner behind a mark, and where a key may begin;
* `Scanner.Arrives`: where a scanner stands in front of its next token;
* `Scanner.Scans`: all tokens of what a scanner has still to read, with `Scanner.scans_step`;
* `Scanner.scans_close`: what a block that ends leaves behind;
* `Scanner.scans_key_inside`, `Scanner.scans_key_opening`: keys in a block, and those that open one;
* `Scanner.scans_dash_inside`, `Scanner.scans_dash_opening`: dashes in a block, and those that open one.
-/

namespace SchemaPages.Yaml

/-! ## 1. Keys and values -/

/-- **A key that stands plainly on a line of its own**, and begins with a letter. -/
structure PlainKey (key : String) : Prop where
  plain : styleOf key = .plain
  simple : isSimpleKey key = true
  short : key.toList.length ≤ 1024
  letter : (key.toList.head?.any Char.isAlpha) = true

instance (key : String) : Decidable (PlainKey key) :=
  decidable_of_iff (styleOf key = .plain ∧ isSimpleKey key = true ∧ key.toList.length ≤ 1024 ∧
      (key.toList.head?.any Char.isAlpha) = true)
    ⟨fun h => ⟨h.1, h.2.1, h.2.2.1, h.2.2.2⟩, fun h => ⟨h.plain, h.simple, h.short, h.letter⟩⟩

section Words

variable {c : Char} {rest tail : List Char}

/-- A letter is none of the marks. -/
theorem ne_of_isAlpha {d : Char} (h : c.isAlpha = true) (other : d.isAlpha = false) : c ≠ d := by
  rintro rfl
  rw [other] at h
  cases h

theorem boundaryNext_of_isAlpha (h : c.isAlpha = true) (cs : List Char) :
    boundaryNext (c :: cs) = false := by
  unfold boundaryNext
  split
  · rename_i same
    exact absurd (List.cons.inj same).1 (ne_of_isAlpha h (by decide))
  · rename_i same
    exact absurd (List.cons.inj same).1 (ne_of_isAlpha h (by decide))
  · rfl

/-- The marks that no plain text begins with. -/
def firstMarks : List Char :=
  ['#', ',', '[', ']', '\x7b', '\x7d', '&', '*', '!', '|', '>', '\x27', '"', '%', '@', '\x60']

theorem not_mark_of_first {next : Option Char} (first : firstIsMark c next = false) :
    c ∉ firstMarks ∧ ((c == '?' || c == ':' || c == '-') && whiteOrEnd next) = false := by
  rw [firstIsMark, Bool.or_eq_false_iff] at first
  refine ⟨fun mem => ?_, first.2⟩
  have known := first.1
  rw [List.contains_eq_mem, decide_eq_false_iff_not] at known
  exact known mem

theorem no_space_ahead {cs : List Char} (h : ¬blankNext cs = true) : cs.head?.any isSpace = false := by
  cases cs with
  | nil => rfl
  | cons d cs =>
      rw [blankNext, Bool.not_eq_true, Bool.or_eq_false_iff] at h
      exact h.1

/-- A colon, as all that stands behind a key, is no blank and no comment. -/
theorem opens_colon (tail : List Char) : Opens (':' :: tail) := by
  intro c rest same
  rw [← (List.cons.inj same).1]
  exact ⟨rfl, rfl, by decide, by decide⟩

/-- A plain text begins a token. -/
theorem opens_plainText {text : String} (plain : PlainText text c rest) (tail : List Char) :
    Opens (text.toList ++ tail) := by
  intro d cs same
  rw [plain.whole, List.cons_append] at same
  rw [← (List.cons.inj same).1]
  obtain ⟨known, _⟩ := not_mark_of_first plain.first
  refine ⟨?_, isBreak_of_endsLine plain.no_end, ?_, ?_⟩
  · rw [isSpace_of_printable plain.printable, beq_false_of_ne plain.solid]
  · rintro rfl
    exact known (by decide)
  · rintro rfl
    exact absurd plain.printable (by decide)

/-- A mark begins a token. -/
theorem opens_mark {d : Char} (mark : d ∈ ['"', '\x27', '|']) (tail : List Char) : Opens (d :: tail) := by
  intro c rest same
  obtain rfl := (List.cons.inj same).1
  simp only [List.mem_cons, List.not_mem_nil, or_false] at mark
  rcases mark with rfl | rfl | rfl <;> exact ⟨rfl, rfl, by decide, by decide⟩

end Words

namespace Scanner

/-! ## 2. From one token to the next -/

section Gaps

variable {tail : List Char} {n : Nat}

/-- Nothing is passed over in front of a token. -/
theorem skipBlank_opens (opens : Opens tail) (tabs inBrackets keyAllowed : Bool) (line column : Nat) :
    skipBlank tabs inBrackets keyAllowed false line column tail = (⟨tail, line, column⟩, keyAllowed) := by
  cases tail with
  | nil => rfl
  | cons c rest =>
      obtain ⟨no_space, no_break, no_comment, no_mark⟩ := opens c rest rfl
      rw [isSpace, Bool.or_eq_false_iff, beq_eq_false_iff_ne, beq_eq_false_iff_ne] at no_space
      simp [skipBlank, no_space, no_break, no_comment, no_mark]

theorem skipBlank_blanks (opens : Opens tail) (tabs inBrackets keyAllowed : Bool) (line column : Nat) :
    skipBlank tabs inBrackets keyAllowed false line column (blanks n ++ tail) =
      (⟨tail, line, column + n⟩, keyAllowed) := by
  induction n generalizing column with
  | zero => exact skipBlank_opens opens _ _ _ _ _
  | succ n ih =>
      have step : skipBlank tabs inBrackets keyAllowed false line column (' ' :: (blanks n ++ tail)) =
          skipBlank tabs inBrackets keyAllowed false line (column + 1) (blanks n ++ tail) := by
        simp [skipBlank, isBreak, byteOrderMark]
      have width : column + 1 + n = column + (n + 1) := by omega
      rw [blanks, List.replicate_succ, List.cons_append, ← blanks, step, ih, width]

end Gaps

/-- **A scanner outside brackets**, behind a mark: a key may begin behind a dash, and none behind a
    colon. -/
def behind (keyAllowed : Bool) (cursor : Cursor) (tokens : List Token) (indent : Int)
    (indents : List Int) : Scanner :=
  { cursor, tokens, count := tokens.length, indent, indents, keyAllowed }

/-- A scanner where a key may begin. -/
abbrev start : Cursor → List Token → Int → List Int → Scanner := behind true

/-- **Where a scanner stands in front of its next token**, with no place left where no key can be. -/
def Arrives (s t : Scanner) : Prop := s.toNext.dropStalePlaces = .ok t

section Next

variable {s t : Scanner} {cursor : Cursor} {tokens : List Token} {indent : Int} {indents : List Int}
  {tail : List Char} {line column n : Nat} {keyAllowed : Bool}

theorem toNext_opens (s : Scanner) (opens : Opens s.cursor.rest) : s.toNext = s := by
  unfold toNext
  rw [skipBlank_opens opens]

theorem length_skipBlank_le (tabs inBrackets keyAllowed comment : Bool) (line column : Nat)
    (cs : List Char) :
    (skipBlank tabs inBrackets keyAllowed comment line column cs).1.rest.length ≤ cs.length := by
  fun_induction skipBlank tabs inBrackets keyAllowed comment line column cs with
  | case1 => exact Nat.le_refl _
  | case7 => exact Nat.le_refl _
  | _ =>
      rename_i ih
      exact Nat.le_succ_of_le ih

/-- Going to the next token adds nothing. -/
theorem length_toNext_le (s : Scanner) : s.toNext.cursor.rest.length ≤ s.cursor.rest.length :=
  length_skipBlank_le _ _ _ _ _ _ _

/-- Giving up places moves nothing. -/
theorem cursor_dropStalePlaces (h : s.dropStalePlaces = .ok t) : t.cursor = s.cursor := by
  unfold dropStalePlaces at h
  dsimp only [bind, Except.bind] at h
  split at h
  · cases h
  · cases h
    rfl

theorem cursor_of_arrives (h : Arrives s t) : t.cursor = s.toNext.cursor := cursor_dropStalePlaces h

/-- A list stays as it is where each of its items does. -/
theorem mapM_keeps {ε α : Type} {f : α → Except ε α} {l : List α} (h : ∀ a ∈ l, f a = .ok a) :
    l.mapM f = .ok l := by
  induction l with
  | nil => rfl
  | cons a l ih =>
      rw [List.forall_mem_cons] at h
      rw [List.mapM_cons, h.1, ih h.2]
      rfl

/-- **Places that are near on the same line stay.** -/
theorem dropStalePlaces_fresh
    (fresh : ∀ o ∈ s.places, ∀ p ∈ o, p.line = s.cursor.line ∧ s.cursor.column ≤ p.column + 1024) :
    s.dropStalePlaces = .ok s := by
  unfold dropStalePlaces
  rw [mapM_keeps]
  · rfl
  · intro o mem
    cases o with
    | none => rfl
    | some p =>
        obtain ⟨here, near⟩ := fresh _ mem p rfl
        exact if_neg (by omega)

theorem dropStalePlaces_none (none : s.places = [none]) : s.dropStalePlaces = .ok s := by
  refine dropStalePlaces_fresh fun o mem p some => ?_
  rw [none, List.mem_singleton] at mem
  rw [mem] at some
  cases some

/-- A place on an earlier line is given up, if a key need not stand there. -/
theorem dropStalePlaces_later {place : Option KeyPlace} (places : s.places = [place])
    (stale : ∀ p ∈ place, p.line < s.cursor.line ∧ p.required = false) :
    s.dropStalePlaces = .ok { s with places := [none] } := by
  unfold dropStalePlaces
  rw [places]
  cases place with
  | none => rfl
  | some p =>
      obtain ⟨earlier, optional⟩ := stale p rfl
      rw [List.mapM_cons]
      dsimp only
      rw [if_pos (Or.inl earlier), optional]
      rfl

/-- In front of a token the scanner has arrived. -/
theorem arrives_opens (opens : Opens tail) (keyAllowed : Bool) (line column : Nat)
    (tokens : List Token) (indent : Int) (indents : List Int) :
    Arrives (behind keyAllowed ⟨tail, line, column⟩ tokens indent indents)
      (behind keyAllowed ⟨tail, line, column⟩ tokens indent indents) := by
  unfold Arrives
  rw [toNext_opens _ opens]
  exact dropStalePlaces_none rfl

/-- A blank in front of a token is passed over. -/
theorem arrives_blank (opens : Opens tail) (keyAllowed : Bool) (line column : Nat)
    (tokens : List Token) (indent : Int) (indents : List Int) :
    Arrives (behind keyAllowed ⟨' ' :: tail, line, column⟩ tokens indent indents)
      (behind keyAllowed ⟨tail, line, column + 1⟩ tokens indent indents) := by
  have all : ∀ tabs keyAllowed, skipBlank tabs false keyAllowed false line column (' ' :: tail) =
      (⟨tail, line, column + 1⟩, keyAllowed) := fun tabs keyAllowed =>
    skipBlank_blanks (n := 1) opens tabs false keyAllowed line column
  have next : (behind keyAllowed ⟨' ' :: tail, line, column⟩ tokens indent indents).toNext =
      behind keyAllowed ⟨tail, line, column + 1⟩ tokens indent indents := by
    unfold toNext
    dsimp only [behind, inBrackets]
    rw [show decide (0 < 0) = false from rfl, all]
  unfold Arrives
  rw [next]
  exact dropStalePlaces_none rfl

/-- Behind the end of a line a key may begin. -/
theorem toNext_line (opens : Opens tail) (s : Scanner) (outside : s.brackets = 0)
    (rest : s.cursor.rest = '\n' :: (blanks n ++ tail)) :
    s.toNext = { s with cursor := ⟨tail, s.cursor.line + 1, n⟩, keyAllowed := true } := by
  have no_brackets : s.inBrackets = false := by
    rw [inBrackets, outside]
    rfl
  have step : ∀ tabs keyAllowed line column,
      skipBlank tabs false keyAllowed false line column ('\n' :: (blanks n ++ tail)) =
        skipBlank (false || !true) false true false (line + 1) 0 (blanks n ++ tail) := by
    intro tabs keyAllowed line column
    simp [skipBlank, isBreak]
  unfold toNext
  rw [rest, no_brackets, step, skipBlank_blanks opens, Nat.zero_add]

/-- **Behind the end of a line** a place on it is given up, if a key need not stand there. -/
theorem arrives_line {place : Option KeyPlace} (opens : Opens tail) (s : Scanner)
    (outside : s.brackets = 0) (rest : s.cursor.rest = '\n' :: (blanks n ++ tail))
    (places : s.places = [place])
    (stale : ∀ p ∈ place, p.line ≤ s.cursor.line ∧ p.required = false) :
    Arrives s { s with
      cursor := ⟨tail, s.cursor.line + 1, n⟩, keyAllowed := true, places := [none] } := by
  unfold Arrives
  rw [toNext_line opens s outside rest]
  exact dropStalePlaces_later places fun p hp => ⟨Nat.lt_succ_of_le (stale p hp).1, (stale p hp).2⟩

/-- The place of a key in front of which so many tokens stand. -/
def keyPlace (cursor : Cursor) (indent : Int) (number : Nat) : KeyPlace where
  required := indent == (cursor.column : Int)
  number := number
  line := cursor.line
  column := cursor.column

/-- The place that is noted for a scalar. -/
def placeAt (keyAllowed : Bool) (cursor : Cursor) (indent : Int) (number : Nat) : Option KeyPlace :=
  if keyAllowed then some (keyPlace cursor indent number) else none

theorem savePlace_behind (keyAllowed : Bool) (cursor : Cursor) (tokens : List Token) (indent : Int)
    (indents : List Int) :
    (behind keyAllowed cursor tokens indent indents).savePlace =
      .ok { behind keyAllowed cursor tokens indent indents with
              places := [placeAt keyAllowed cursor indent tokens.length] } := by
  cases keyAllowed <;> rfl

/-- No key has to stand deeper than its block begins. -/
theorem stale_placeAt {p : KeyPlace} {number : Nat} (inner : indent < cursor.column)
    (h : p ∈ placeAt keyAllowed cursor indent number) :
    p.line = cursor.line ∧ p.required = false := by
  cases keyAllowed with
  | false => cases h
  | true =>
      cases h
      refine ⟨rfl, ?_⟩
      show (indent == (cursor.column : Int)) = false
      exact beq_false_of_ne (Int.ne_of_lt inner)

theorem column_placeAt {p : KeyPlace} {number : Nat} (h : p ∈ placeAt keyAllowed cursor indent number) :
    p.column = cursor.column := by
  cases keyAllowed with
  | false => cases h
  | true =>
      cases h
      rfl

end Next

/-- **All tokens** of what a scanner has still to read. -/
def Scans (s : Scanner) (out : List Token) : Prop :=
  ∀ bound, s.toNext.cursor.rest.length < bound → s.run bound = .ok out

section Steps

variable {s t s' : Scanner} {c : Char} {rest : List Char} {out : List Token}

/-- What is read depends on where the next token is. -/
theorem run_succ (next : Arrives s t) (bound : Nat) : s.run (bound + 1) = match t.cursor.rest with
    | [] => t.endBlocks >>= fun s => .ok s.tokens.reverse
    | c :: rest => (t.unindent t.cursor.column).take c rest >>= fun s => s.run bound := by
  unfold Arrives at next
  rw [run, next]
  rfl

/-- A scanner may as well begin where it arrives. -/
theorem scans_of_arrives (next : Arrives s t) (there : Arrives t t) (later : Scans t out) :
    Scans s out := by
  intro bound enough
  rw [← cursor_of_arrives next, cursor_of_arrives there] at enough
  have read := later bound enough
  cases bound with
  | zero => cases enough
  | succ bound => rwa [run_succ there, ← run_succ next] at read

/-- A token is taken, and the others behind it. -/
theorem scans_step (next : Arrives s t) (begins : t.cursor.rest = c :: rest)
    (taken : (t.unindent t.cursor.column).take c rest = .ok s')
    (shorter : s'.toNext.cursor.rest.length < t.cursor.rest.length) (later : Scans s' out) :
    Scans s out := by
  intro bound enough
  cases bound with
  | zero => cases enough
  | succ bound =>
      rw [← cursor_of_arrives next] at enough
      rw [run_succ next, begins]
      dsimp only
      rw [taken]
      exact later bound (by omega)

end Steps

/-! ## 3. Blocks that begin and end -/

variable {s : Scanner} {cursor : Cursor} {tokens out : List Token} {indent : Int} {indents : List Int}

section Blocks

variable {tail : List Char} {line column : Nat}

/-- A token is put in front of the latest ones. -/
theorem insertAt_behind (s : Scanner) {latest before : List Token} (all : s.tokens = latest ++ before)
    (count : s.count = latest.length + before.length) (t : Token) :
    s.insertAt before.length t =
      { s with tokens := latest ++ t :: before, count := s.count + 1 } := by
  have later : s.count - before.length = latest.length := by omega
  simp only [insertAt, later, all, List.take_left, List.drop_left]

/-- No block is opened within one that begins there. -/
theorem openBlock_inside {keyAllowed : Bool} (open_ : (column : Int) ≤ indent) (number : Nat)
    (t : Token) : (behind keyAllowed cursor tokens indent indents).openBlock column number t =
      behind keyAllowed cursor tokens indent indents := if_pos (Or.inr open_)

/-- A block is opened in front of the latest tokens. -/
theorem openBlock_deeper (keyAllowed : Bool) (cursor : Cursor) (indents : List Int)
    (deeper : indent < column) (latest before : List Token) (t : Token) :
    (behind keyAllowed cursor (latest ++ before) indent indents).openBlock column before.length t =
      behind keyAllowed cursor (latest ++ t :: before) column (indent :: indents) := by
  have closed : ¬((behind keyAllowed cursor (latest ++ before) indent indents).inBrackets = true ∨
      (column : Int) ≤ (behind keyAllowed cursor (latest ++ before) indent indents).indent) := by
    rintro (brackets | open_)
    · cases brackets
    · exact absurd deeper (Int.not_lt.mpr open_)
  have count : (latest ++ before).length + 1 = (latest ++ t :: before).length := by
    simp only [List.length_append, List.length_cons, Nat.add_assoc]
  unfold openBlock
  rw [if_neg closed, insertAt_behind _ (show _ = latest ++ before from rfl) List.length_append]
  dsimp only [behind]
  rw [count]

theorem cursor_openBlock (s : Scanner) (column number : Nat) (t : Token) :
    (s.openBlock column number t).cursor = s.cursor := by
  unfold openBlock
  split <;> rfl

/-- Within the innermost block nothing is closed. -/
theorem unindent_inside {s : Scanner} (inside : s.indent ≤ column) : s.unindent column = s := by
  unfold unindent
  split
  · rfl
  · unfold closeBlocks
    split
    · rename_i none
      rw [← none]
    · rename_i outer rest some
      rw [if_neg (by omega), ← some]

/-- Closing blocks leaves those around them as they are. -/
theorem closeBlocks_indents (s : Scanner) (column : Int) (around l : List Int) :
    { s with indents := around }.closeBlocks column l = s.closeBlocks column l := by
  induction l generalizing s with
  | nil => rfl
  | cons outer rest ih =>
      unfold closeBlocks
      split
      · exact ih { s.push .blockEnd with indent := outer }
      · rfl

/-- A block that ends is closed before those around it. -/
theorem unindent_close {outer column : Int} (deeper : column < indent) :
    (start cursor tokens indent (outer :: indents)).unindent column =
      (start cursor (.blockEnd :: tokens) outer indents).unindent column := by
  show (start cursor tokens indent (outer :: indents)).closeBlocks column (outer :: indents) =
    (start cursor (.blockEnd :: tokens) outer indents).closeBlocks column indents
  rw [closeBlocks, if_pos (show column < (start cursor tokens indent _).indent from deeper)]
  exact closeBlocks_indents (start cursor (.blockEnd :: tokens) outer indents) column _ indents

/-- **A block ends in front of a line that does not lie as deep**, and at the end of the text. -/
theorem scans_close {outer : Int} {block : Nat} (opens : Opens tail)
    (ends : column < block ∨ tail = [])
    (later : Scans (start ⟨tail, line, column⟩ (.blockEnd :: tokens) outer indents) out) :
    Scans (start ⟨tail, line, column⟩ tokens block (outer :: indents)) out := by
  intro bound enough
  have next := arrives_opens opens true line column tokens block (outer :: indents)
  have there := arrives_opens opens true line column (.blockEnd :: tokens) outer indents
  rw [← cursor_of_arrives next] at enough
  have read := later bound (by rw [← cursor_of_arrives there]; exact enough)
  cases bound with
  | zero => cases enough
  | succ bound =>
      rw [run_succ there] at read
      rw [run_succ next]
      cases tail with
      | nil =>
          have closed : (start ⟨[], line, column⟩ tokens block (outer :: indents)).endBlocks =
              (start ⟨[], line, column⟩ (.blockEnd :: tokens) outer indents).endBlocks := by
            unfold endBlocks
            rw [unindent_close (by omega)]
          rw [← read]
          exact congrArg (· >>= fun s => Except.ok s.tokens.reverse) closed
      | cons c rest =>
          have shallow : (column : Int) < block :=
            Int.ofNat_lt.mpr (ends.resolve_right (List.cons_ne_nil _ _))
          rw [← read]
          exact congrArg (fun s => s.take c rest >>= fun s => s.run bound) (unindent_close shallow)

end Blocks

/-! ## 4. Keys -/

/-- No blank stands behind a mark that a plain text begins with. -/
theorem not_blank_behind {text : String} {c d : Char} {rest : List Char} (plain : PlainText text c rest)
    (tail : List Char) (mark : d = '-' ∨ d = '?' ∨ d = ':') :
    ¬(c = d ∧ blankNext (rest ++ tail) = true) := by
  rintro ⟨rfl, blank⟩
  obtain ⟨_, white⟩ := not_mark_of_first plain.first
  have solid : whiteOrEnd rest.head? = false := by rcases mark with rfl | rfl | rfl <;> exact white
  rw [blankNext_of_white solid tail] at blank
  cases blank

/-- A plain text begins as a plain scalar may. -/
theorem beginsPlain_plainText {text : String} {c : Char} {rest : List Char}
    (plain : PlainText text c rest) (tail : List Char) : beginsPlain false c (rest ++ tail) = true := by
  obtain ⟨known, _⟩ := not_mark_of_first plain.first
  have no_space : isSpace c = false := by
    rw [isSpace_of_printable plain.printable, beq_false_of_ne plain.solid]
  have no_bracket : isBracketMark c = false := by
    simp only [firstMarks, List.mem_cons, List.not_mem_nil, or_false, not_or] at known
    simp [isBracketMark, known]
  have no_mark : "#&*!|>\x27\"%@\x60".toList.contains c = false := by
    rw [List.contains_eq_mem, decide_eq_false_iff_not]
    have within : "#&*!|>\x27\"%@\x60".toList ⊆ firstMarks := by decide
    exact fun mem => known (within mem)
  unfold beginsPlain
  split
  · rename_i dash
    rw [no_space_ahead fun blank => not_blank_behind plain tail (Or.inl rfl) ⟨dash, blank⟩]
    rfl
  · split
    · rename_i mark
      have ahead : blankNext (rest ++ tail) = false :=
        Bool.eq_false_iff.mpr fun blank => not_blank_behind plain tail (Or.inr mark) ⟨rfl, blank⟩
      rw [ahead]
      rfl
    · rw [no_space, no_mark, no_bracket]
      rfl

/-- **A plain text is taken as a plain scalar.** -/
theorem take_plainText {text : String} {c : Char} {rest : List Char} (plain : PlainText text c rest)
    (tail : List Char) (outside : s.brackets = 0)
    (no_boundary : s.cursor.column = 0 → boundaryNext (c :: (rest ++ tail)) = false) :
    s.take c (rest ++ tail) = s.plain := by
  obtain ⟨known, _⟩ := not_mark_of_first plain.first
  have no_brackets : s.inBrackets = false := by
    rw [inBrackets, outside]
    rfl
  have begins := beginsPlain_plainText plain tail
  have dash := not_blank_behind plain tail (d := '-') (by simp)
  have key := not_blank_behind plain tail (d := '?') (by simp)
  have value := not_blank_behind plain tail (d := ':') (by simp)
  simp only [firstMarks, List.mem_cons, List.not_mem_nil, or_false, not_or] at known
  unfold take
  rw [if_neg (by simp [known]), if_neg (fun h => by simp [no_boundary h.1] at h)]
  split
  case h_11 => simp [no_brackets, dash, key, value, known, begins]
  all_goals exact absurd known (by decide)

section Keys

variable {key : String} {tail : List Char} {line column : Nat}

/-- **A key is taken as a plain scalar**, and its place is noted. -/
theorem take_key (line : Nat) (tokens : List Token) (indents : List Int) (word : PlainKey key)
    (inside : indent ≤ column) (white : blankNext tail = true) :
    ∃ c rest, key.toList ++ ':' :: tail = c :: rest ∧
      (start ⟨key.toList ++ ':' :: tail, line, column⟩ tokens indent indents).take c rest =
        .ok { start ⟨':' :: tail, line, column + key.toList.length⟩ (.scalar .plain key :: tokens)
                indent indents with
              places := [some (keyPlace ⟨key.toList ++ ':' :: tail, line, column⟩ indent tokens.length)]
              keyAllowed := false } := by
  obtain ⟨_, c, rest, text⟩ := plainText_of_style word.plain
  have letter : c.isAlpha = true := by
    have first := word.letter
    rw [text.whole] at first
    exact first
  have no_boundary : ∀ cs, boundaryNext (c :: cs) = false := boundaryNext_of_isAlpha letter
  refine ⟨c, rest ++ ':' :: tail, by rw [text.whole]; rfl, ?_⟩
  have wide : (indent + 1).toNat ≤ column + 1 := by omega
  have read : readPlain false (indent + 1).toNat [] {} line column (key.toList ++ ':' :: tail) =
      .ok (key, ⟨':' :: tail, line, column + key.toList.length⟩, false) := by
    rw [readPlain_plainText text wide (by rw [text.whole, List.cons_append, no_boundary]; simp),
      readPlain_colon white (by rw [text.whole, List.length_cons]; omega), List.reverse_reverse,
      String.ofList_toList]
  rw [take_plainText text _ rfl fun _ => no_boundary _, Scanner.plain, savePlace_behind]
  show (readPlain false (indent + 1).toNat [] {} line column (key.toList ++ ':' :: tail)).bind _ = _
  rw [read]
  rfl

/-- A scanner behind a key, in front of its colon. -/
def keyed (cursor : Cursor) (tokens : List Token) (indent : Int) (indents : List Int) (place : KeyPlace) :
    Scanner :=
  { start cursor tokens indent indents with places := [some place], keyAllowed := false }

theorem take_colon (s : Scanner) (white : blankNext tail = true) : s.take ':' tail = s.colon := by
  unfold take
  simp [white, boundaryNext]

/-- **The colon behind a key** puts a mark in front of it, and opens a block if there is none. -/
theorem colon_keyed {place : KeyPlace} (number : place.number = tokens.length) :
    (keyed ⟨':' :: tail, line, column⟩ (.scalar .plain key :: tokens) indent indents place).colon =
      .ok (((behind false ⟨':' :: tail, line, column⟩ (.scalar .plain key :: .key :: tokens) indent
        indents).openBlock place.column tokens.length .blockMapping).mark .value 1) := by
  have inserted := insertAt_behind
    (keyed ⟨':' :: tail, line, column⟩ (.scalar .plain key :: tokens) indent indents place)
    (show _ = [Token.scalar .plain key] ++ tokens from rfl) (Nat.add_comm _ _) .key
  unfold colon
  dsimp only [keyed] at inserted ⊢
  rw [number, inserted]
  rfl

/-- Behind a key the scanner has arrived in front of its colon. -/
theorem arrives_keyed {place : KeyPlace} (tokens : List Token) (indent : Int) (indents : List Int)
    (here : place.line = line) (near : column ≤ place.column + 1024) :
    Arrives (keyed ⟨':' :: tail, line, column⟩ tokens indent indents place)
      (keyed ⟨':' :: tail, line, column⟩ tokens indent indents place) := by
  unfold Arrives
  rw [toNext_opens _ (opens_colon tail)]
  refine dropStalePlaces_fresh fun o mem p same => ?_
  cases List.mem_singleton.mp mem
  cases same
  exact ⟨here, near⟩

/-- A plain key begins a token. -/
theorem opens_key (word : PlainKey key) (tail : List Char) : Opens (key.toList ++ tail) := by
  obtain ⟨_, c, rest, text⟩ := plainText_of_style word.plain
  exact opens_plainText text tail

/-- **A key with its colon** is taken. -/
theorem scans_key (word : PlainKey key) (inside : indent ≤ column) (white : blankNext tail = true)
    (later : Scans (((behind false ⟨':' :: tail, line, column + key.toList.length⟩
      (.scalar .plain key :: .key :: tokens) indent indents).openBlock column tokens.length
        .blockMapping).mark .value 1) out) :
    Scans (start ⟨key.toList ++ ':' :: tail, line, column⟩ tokens indent indents) out := by
  obtain ⟨c, rest, begins, taken⟩ := take_key line tokens indents word inside white
  have short := word.short
  have filled : 0 < key.toList.length := by
    have letter := word.letter
    cases whole : key.toList with
    | nil =>
        rw [whole] at letter
        cases letter
    | cons c rest => exact Nat.succ_pos _
  have value : Scans (keyed ⟨':' :: tail, line, column + key.toList.length⟩
      (.scalar .plain key :: tokens) indent indents
      (keyPlace ⟨key.toList ++ ':' :: tail, line, column⟩ indent tokens.length)) out := by
    refine scans_step (arrives_keyed _ _ _ rfl ?_) rfl ?_ ?_ later
    · show column + key.toList.length ≤ column + 1024
      omega
    · rw [unindent_inside, take_colon _ white, colon_keyed rfl]
      · rfl
      · show indent ≤ ((column + key.toList.length : Nat) : Int)
        omega
    · refine Nat.lt_of_le_of_lt (length_toNext_le _) ?_
      rw [mark, cursor_openBlock]
      exact Nat.lt_succ_self _
  refine scans_step (arrives_opens (opens_key word _) true line column tokens indent indents) begins ?_ ?_
    value
  · rw [unindent_inside inside, taken]
    rfl
  · rw [toNext_opens _ (opens_colon tail)]
    show (':' :: tail).length < (key.toList ++ ':' :: tail).length
    rw [List.length_append]
    omega

/-- A key in the innermost block. -/
theorem scans_key_inside (word : PlainKey key) (white : blankNext tail = true)
    (later : Scans (behind false ⟨tail, line, column + key.toList.length + 1⟩
      (.value :: .scalar .plain key :: .key :: tokens) column indents) out) :
    Scans (start ⟨key.toList ++ ':' :: tail, line, column⟩ tokens column indents) out := by
  have here : (column : Int) ≤ column := Int.le_refl _
  refine scans_key word here white ?_
  rw [openBlock_inside here]
  exact later

/-- A key that opens a block. -/
theorem scans_key_opening (word : PlainKey key) (deeper : indent < column)
    (white : blankNext tail = true)
    (later : Scans (behind false ⟨tail, line, column + key.toList.length + 1⟩
      (.value :: .scalar .plain key :: .key :: .blockMapping :: tokens) column (indent :: indents)) out) :
    Scans (start ⟨key.toList ++ ':' :: tail, line, column⟩ tokens indent indents) out := by
  refine scans_key word (Int.le_of_lt deeper) white ?_
  have opened := openBlock_deeper false ⟨':' :: tail, line, column + key.toList.length⟩ indents deeper
    [.scalar .plain key, .key] tokens .blockMapping
  rw [show Token.scalar .plain key :: .key :: tokens = [.scalar .plain key, .key] ++ tokens from rfl,
    opened]
  exact later

end Keys

/-! ## 5. Dashes -/

section Dashes

variable {tail : List Char} {line column : Nat}

/-- A dash begins a token. -/
theorem opens_dash (tail : List Char) : Opens ('-' :: tail) := by
  intro c rest same
  rw [← (List.cons.inj same).1]
  exact ⟨rfl, rfl, by decide, by decide⟩

theorem take_dash (s : Scanner) (tail : List Char) : s.take '-' (' ' :: tail) = s.dash := by
  unfold take
  simp [boundaryNext, blankNext, isSpace]

/-- Where a key may begin a dash may stand. -/
theorem dash_start : (start cursor tokens indent indents).dash =
    .ok (((start cursor tokens indent indents).openBlock cursor.column tokens.length .blockList).mark
      .dash 1) := by
  have taken : ∀ s : Scanner, s.places = [none] → s.keyAllowed = true →
      (s.dropPlace >>= fun s => .ok { s.mark .dash 1 with keyAllowed := true }) =
        .ok (s.mark .dash 1) := by
    intro s places allowed
    have dropped : s.dropPlace = .ok s := by
      unfold dropPlace
      rw [places]
    rw [dropped]
    show Except.ok { s.mark .dash 1 with keyAllowed := true } = _
    rw [← allowed]
    rfl
  refine taken _ ?_ ?_
  · unfold openBlock
    split <;> rfl
  · unfold openBlock
    split <;> rfl

/-- **A dash with the blank behind it** is taken, and opens a block if there is none. -/
theorem scans_dash (inside : indent ≤ column)
    (later : Scans (((start ⟨'-' :: ' ' :: tail, line, column⟩ tokens indent indents).openBlock column
      tokens.length .blockList).mark .dash 1) out) :
    Scans (start ⟨'-' :: ' ' :: tail, line, column⟩ tokens indent indents) out := by
  refine scans_step (arrives_opens (opens_dash _) true line column tokens indent indents) rfl ?_ ?_ later
  · rw [unindent_inside inside, take_dash]
    exact dash_start
  · refine Nat.lt_of_le_of_lt (length_toNext_le _) ?_
    rw [mark, cursor_openBlock]
    exact Nat.lt_succ_self _

/-- A dash in the innermost block. -/
theorem scans_dash_inside
    (later : Scans (start ⟨' ' :: tail, line, column + 1⟩ (.dash :: tokens) column indents) out) :
    Scans (start ⟨'-' :: ' ' :: tail, line, column⟩ tokens column indents) out := by
  have here : (column : Int) ≤ column := Int.le_refl _
  refine scans_dash here ?_
  rw [openBlock_inside here]
  exact later

/-- A dash that opens a block. -/
theorem scans_dash_opening (deeper : indent < column)
    (later : Scans (start ⟨' ' :: tail, line, column + 1⟩ (.dash :: .blockList :: tokens) column
      (indent :: indents)) out) :
    Scans (start ⟨'-' :: ' ' :: tail, line, column⟩ tokens indent indents) out := by
  refine scans_dash (Int.le_of_lt deeper) ?_
  have opened := openBlock_deeper true ⟨'-' :: ' ' :: tail, line, column⟩ indents deeper [] tokens
    .blockList
  rw [List.nil_append, List.nil_append] at opened
  rw [opened]
  exact later

end Dashes

end Scanner

end SchemaPages.Yaml
