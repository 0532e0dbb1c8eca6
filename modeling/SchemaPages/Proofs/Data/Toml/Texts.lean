import Mathlib.Data.List.Basic
import SchemaPages.Data.Toml.Printer
/-!
# Texts of TOML are read back

A text is quoted in the plainest way that holds it. Whichever this is, the reader tells where the text
ends and gives it back, also where quotes stand at its very end.

* `escapedChar_cases`: the three ways to write a character between double quotes;
* `readBasic_escapedText`, `readLiteral_plain`: texts on one line;
* `readLongBasic_escapedText`, `readLongLiteral_plain`: texts between three quotes;
* `readString_textLiteral`: all texts.
-/

namespace SchemaPages.Toml

/-! ## 1. Characters between double quotes -/

/-- A control character is read back from its four digits. -/
theorem codePoint?_hex4 : ∀ n < 0x80, (match hex4 n with
    | [a, b, c, d] => codePoint? [a, b, c, d]
    | _ => none) = some (Char.ofNat n) := by
  decide +kernel

theorem toNat_lt_of_isControl {c : Char} (h : isControl c = true) : c.toNat < 0x80 := by
  unfold isControl isPlain at h
  simp only [Bool.and_eq_true, Bool.not_eq_true', Bool.or_eq_false_iff, Bool.and_eq_false_iff,
    decide_eq_false_iff_not, bne_eq_false_iff_eq] at h
  omega

/-- **Three ways to write a character**: by its letter, by its number, or as it is. -/
theorem escapedChar_cases (c : Char) :
    (∃ l, escapedChar c = ['\\', l] ∧ unescapeLetter? l = some c ∧ l ∈ ['b', 't', 'n', 'f', 'r', '\\']) ∨
    (∃ a b d e, escapedChar c = ['\\', 'u', a, b, d, e] ∧ codePoint? [a, b, d, e] = some c) ∨
    (escapedChar c = [c] ∧ isPlain c = true ∧ c ≠ '\\' ∧ c ≠ '\n' ∧ c ≠ '\r') := by
  cases letter : escapeLetter? c with
  | some l =>
      refine Or.inl ⟨l, by rw [escapedChar, letter], ?_⟩
      unfold escapeLetter? at letter
      split at letter <;> cases letter <;> decide
  | none =>
      by_cases control : isControl c = true
      · have digits := codePoint?_hex4 c.toNat (toNat_lt_of_isControl control)
        rw [Char.ofNat_toNat] at digits
        split at digits
        · rename_i a b d e four
          refine Or.inr (Or.inl ⟨a, b, d, e, ?_, digits⟩)
          rw [escapedChar, letter]
          dsimp only
          rw [if_pos control, four]
        · cases digits
      · have other : ∀ d, escapeLetter? d ≠ none → c ≠ d := fun d hd e => hd (e ▸ letter)
        have no_end : c ≠ '\n' := other _ (by decide)
        refine Or.inr (Or.inr ⟨?_, ?_, other _ (by decide), no_end, other _ (by decide)⟩)
        · rw [escapedChar, letter]
          dsimp only
          rw [if_neg control]
        · simpa [isControl, no_end] using control

/-! ## 2. Texts on one line -/

section Line

variable {c : Char} {read rest tail : List Char}

/-- A character that has been read stands at the end of what was read before it. -/
theorem read_cons (cs : List Char) :
    some (String.ofList ((c :: read).reverse ++ cs), rest) =
      some (String.ofList (read.reverse ++ c :: cs), rest) := by
  rw [List.reverse_cons, List.append_assoc]
  rfl

theorem readBasic_escapedChar (h : c ≠ '"') :
    readBasic read (escapedChar c ++ tail) = readBasic (c :: read) tail := by
  rcases escapedChar_cases c with ⟨l, written, back, known⟩ | ⟨a, b, d, e, written, back⟩ |
    ⟨written, plain, no_backslash, _, _⟩
  · rw [written]
    simp only [List.mem_cons, List.not_mem_nil, or_false] at known
    rcases known with rfl | rfl | rfl | rfl | rfl | rfl <;> cases back <;> rfl
  · rw [written]
    show readBasic read ('\\' :: 'u' :: a :: b :: d :: e :: tail) = _
    rw [readBasic, back]
    rfl
  · rw [written]
    show readBasic read (c :: tail) = _
    rw [readBasic]
    · rw [if_pos ⟨plain, no_backslash⟩]
    -- it begins none of the marks that are looked for first
    all_goals
      intros
      contradiction

/-- **What is escaped is read back** up to the double quote: by induction on the characters. -/
theorem readBasic_escapedText (cs : List Char) (run : Nat) :
    readBasic read (escapedText false run cs ++ '"' :: rest) =
      some (String.ofList (read.reverse ++ cs), rest) := by
  induction cs generalizing read run with
  | nil =>
      rw [List.append_nil]
      rfl
  | cons c cs ih =>
      by_cases quote : c = '"'
      · subst quote
        exact (ih 0).trans (read_cons cs)
      · rw [escapedText, if_neg quote, if_neg (fun h => Bool.false_ne_true h.1), List.append_assoc,
          readBasic_escapedChar quote, ih 0, read_cons]

/-- Plain characters are read as they are up to the apostrophe. -/
theorem readLiteral_plain (cs : List Char) (plain : ∀ c ∈ cs, isPlain c = true)
    (free : apostrophe ∉ cs) :
    readLiteral read (cs ++ apostrophe :: rest) = some (String.ofList (read.reverse ++ cs), rest) := by
  induction cs generalizing read with
  | nil =>
      rw [List.append_nil]
      rfl
  | cons c cs ih =>
      have other : c ≠ apostrophe := fun h => free (h ▸ List.mem_cons_self)
      rw [List.cons_append, readLiteral, if_neg other, if_pos (plain c List.mem_cons_self),
        ih (fun d hd => plain d (List.mem_cons_of_mem _ hd))
          (fun h => free (List.mem_cons_of_mem _ h)), read_cons]

end Line

/-! ## 3. Texts between three quotes -/

/-- The longest run is no shorter than the one that ends before the characters. -/
theorem le_longestRun (c : Char) (cs : List Char) (run : Nat) : run ≤ longestRun c run cs := by
  induction cs generalizing run with
  | nil => exact Nat.le_refl run
  | cons d cs ih =>
      rw [longestRun]
      split
      · exact Nat.le_trans (Nat.le_succ run) (ih (run + 1))
      · exact Nat.le_max_left run _

theorem longestRun_mono {c : Char} {cs : List Char} {run run' : Nat} (h : run ≤ run') :
    longestRun c run cs ≤ longestRun c run' cs := by
  induction cs generalizing run run' with
  | nil => exact h
  | cons d cs ih =>
      rw [longestRun, longestRun]
      split
      · exact ih (Nat.succ_le_succ h)
      · exact Nat.max_le.mpr ⟨Nat.le_trans h (Nat.le_max_left run' _), Nat.le_max_right run' _⟩

theorem longestRun_tail (c d : Char) (cs : List Char) (run : Nat) :
    longestRun c 0 cs ≤ longestRun c run (d :: cs) := by
  rw [longestRun]
  split
  · exact longestRun_mono (Nat.zero_le _)
  · exact Nat.le_max_right run _

theorem not_mem_of_longestRun {c : Char} {cs : List Char} (h : longestRun c 0 cs = 0) : c ∉ cs := by
  induction cs with
  | nil => exact List.not_mem_nil
  | cons d cs ih =>
      have shorter := longestRun_tail c d cs 0
      intro there
      rcases List.mem_cons.mp there with rfl | there
      · rw [longestRun, if_pos rfl] at h
        have one := le_longestRun c cs (0 + 1)
        omega
      · exact ih (by omega) there

section Long

variable {c : Char} {read rest tail : List Char}

theorem readLongBasic_escapedChar (h : c ≠ '"') :
    readLongBasic .off read (escapedChar c ++ tail) = readLongBasic .off (c :: read) tail := by
  rcases escapedChar_cases c with ⟨l, written, back, known⟩ | ⟨a, b, d, e, written, back⟩ |
    ⟨written, plain, no_backslash, no_end, no_return⟩
  · rw [written]
    simp only [List.mem_cons, List.not_mem_nil, or_false] at known
    rcases known with rfl | rfl | rfl | rfl | rfl | rfl <;> cases back <;> rfl
  · rw [written]
    show readLongBasic .off read ('\\' :: 'u' :: a :: b :: d :: e :: tail) = _
    rw [readLongBasic, back]
    rfl
  · rw [written]
    show readLongBasic .off read (c :: tail) = _
    rw [readLongBasic]
    · rw [if_neg (fun blank => blank.1 rfl), if_neg (by simp [plain, no_backslash])]
    all_goals
      intros
      contradiction

/-- A quote stands for itself unless two more follow. -/
theorem readLongBasic_quote (alone : ∀ more, tail ≠ '"' :: '"' :: more) :
    readLongBasic .off read ('"' :: tail) = readLongBasic .off ('"' :: read) tail := by
  rw [readLongBasic]
  · rw [if_neg (fun blank => blank.1 rfl), if_neg (by decide)]
  any_goals
    intros
    contradiction
  exact fun more _ same => alone more same

/-- Where no quote is written as it is, the text goes on with no quote, and with a line end only if
    there is one. -/
theorem escapedText_begins (cs : List Char) {long : Bool} {run : Nat}
    (h : c = '"' → ¬ (long = true ∧ run < 2)) :
    ∃ e more, escapedText long run (c :: cs) = e :: more ∧ e ≠ '"' ∧ e ≠ '\r' ∧
      (e = '\n' → c = '\n') := by
  by_cases quote : c = '"'
  · refine ⟨'\\', '"' :: escapedText long 0 cs, ?_, by decide, by decide, nofun⟩
    rw [escapedText, if_pos quote, if_neg (h quote)]
  by_cases lineEnd : long = true ∧ c = '\n'
  · refine ⟨'\n', escapedText long 0 cs, ?_, by decide, by decide, fun _ => lineEnd.2⟩
    rw [escapedText, if_neg quote, if_pos lineEnd]
  rw [escapedText, if_neg quote, if_neg lineEnd]
  rcases escapedChar_cases c with ⟨l, written, _⟩ | ⟨a, b, d, e, written, _⟩ |
    ⟨written, _, _, _, no_return⟩
  · exact ⟨'\\', l :: escapedText long 0 cs, by rw [written]; rfl, by decide, by decide, nofun⟩
  · exact ⟨'\\', 'u' :: a :: b :: d :: e :: escapedText long 0 cs, by rw [written]; rfl, by decide,
      by decide, nofun⟩
  · exact ⟨c, escapedText long 0 cs, by rw [written]; rfl, quote, no_return, id⟩

/-- Behind a quote that is written as it is, two more come only at the end of the text. -/
theorem escapedText_ne {cs : List Char} {run : Nat} (later : 1 ≤ run) (more : cs ≠ [])
    (last : cs = ['"'] → 2 ≤ run) (tail after : List Char) :
    escapedText true run cs ++ tail ≠ '"' :: '"' :: after := by
  cases cs with
  | nil => exact absurd rfl more
  | cons c cs =>
      by_cases raw : c = '"' ∧ run < 2
      · obtain ⟨rfl, room⟩ := raw
        cases cs with
        | nil => exact absurd (last rfl) (Nat.not_le.mpr room)
        | cons d cs =>
            have full : d = '"' → ¬ (true = true ∧ run + 1 < 2) := fun _ h => by omega
            obtain ⟨e, others, begins, other, _⟩ := escapedText_begins cs full
            rw [escapedText, if_pos rfl, if_pos ⟨rfl, room⟩, begins]
            intro same
            exact other (List.cons.inj (List.cons.inj same).2).1
      · have full : c = '"' → ¬ (true = true ∧ run < 2) := fun quote h => raw ⟨quote, h.2⟩
        obtain ⟨e, others, begins, other, _⟩ := escapedText_begins cs full
        rw [begins]
        intro same
        exact other (List.cons.inj same).1

/-- **What is escaped between three quotes is read back**: by induction on the characters. Up to two
    quotes may stand right before the three at the end, and then belong to the text. -/
theorem readLongBasic_escapedText (cs : List Char) {run : Nat} (few : run ≤ 2) :
    readLongBasic .off read (escapedText true run cs ++ '"' :: '"' :: '"' :: '\n' :: rest) =
      some (String.ofList (read.reverse ++ cs), '\n' :: rest) := by
  induction cs generalizing read run with
  | nil =>
      rw [List.append_nil]
      rfl
  | cons c cs ih =>
      by_cases quote : c = '"'
      · subst quote
        by_cases room : run < 2
        · rw [escapedText, if_pos rfl, if_pos ⟨rfl, room⟩, List.cons_append]
          by_cases none_left : cs = []
          · subst none_left
            show some (String.ofList ('"' :: read).reverse, '\n' :: rest) = _
            rw [List.reverse_cons]
          by_cases one_left : cs = ['"'] ∧ run = 0
          · obtain ⟨rfl, rfl⟩ := one_left
            show some (String.ofList ('"' :: '"' :: read).reverse, '\n' :: rest) = _
            rw [List.reverse_cons, List.reverse_cons, List.append_assoc]
            rfl
          · have last : cs = ['"'] → 2 ≤ run + 1 := fun one =>
              Nat.succ_le_succ (Nat.pos_of_ne_zero fun zero => one_left ⟨one, zero⟩)
            rw [readLongBasic_quote (escapedText_ne (Nat.le_add_left 1 run) none_left last _),
              ih room, read_cons]
        · rw [escapedText, if_pos rfl, if_neg (fun h => room h.2)]
          exact (ih (Nat.zero_le 2)).trans (read_cons cs)
      · by_cases lineEnd : c = '\n'
        · subst lineEnd
          exact (ih (Nat.zero_le 2)).trans (read_cons cs)
        · rw [escapedText, if_neg quote, if_neg (fun h => lineEnd h.2), List.append_assoc,
            readLongBasic_escapedChar quote, ih (Nat.zero_le 2), read_cons]

/-- An apostrophe stands for itself unless two more follow. -/
theorem readLongLiteral_apostrophe (alone : ∀ more, tail ≠ apostrophe :: apostrophe :: more) :
    readLongLiteral read (apostrophe :: tail) = readLongLiteral (apostrophe :: read) tail := by
  unfold apostrophe at alone ⊢
  rw [readLongLiteral]
  · rw [if_pos (by decide)]
  any_goals
    intros
    contradiction
  exact fun more _ same => alone more same

/-- Behind an apostrophe, two more come only at the end of the text, or three would stand together. -/
theorem apostrophes_ne {cs : List Char} (few : longestRun apostrophe 0 (apostrophe :: cs) ≤ 2)
    (more : cs ≠ []) (other : cs ≠ [apostrophe]) (tail after : List Char) :
    cs ++ tail ≠ apostrophe :: apostrophe :: after := by
  intro same
  cases cs with
  | nil => exact more rfl
  | cons d ds =>
      obtain ⟨rfl, second⟩ := List.cons.inj same
      cases ds with
      | nil => exact other rfl
      | cons e es =>
          obtain ⟨rfl, _⟩ := List.cons.inj second
          have three := le_longestRun apostrophe es (0 + 1 + 1 + 1)
          simp only [longestRun, if_true] at few
          omega

/-- **Plain characters and line ends are read as they are** up to three apostrophes, if no more than two
    stand together. -/
theorem readLongLiteral_plain (cs : List Char) (plain : ∀ c ∈ cs, isControl c = false)
    (few : longestRun apostrophe 0 cs ≤ 2) :
    readLongLiteral read (cs ++ apostrophe :: apostrophe :: apostrophe :: '\n' :: rest) =
      some (String.ofList (read.reverse ++ cs), '\n' :: rest) := by
  induction cs generalizing read with
  | nil =>
      rw [List.append_nil]
      rfl
  | cons c cs ih =>
      have later : readLongLiteral (c :: read)
          (cs ++ apostrophe :: apostrophe :: apostrophe :: '\n' :: rest) =
          some (String.ofList (read.reverse ++ c :: cs), '\n' :: rest) :=
        (ih (fun d hd => plain d (List.mem_cons_of_mem _ hd))
          (Nat.le_trans (longestRun_tail apostrophe c cs 0) few)).trans (read_cons cs)
      by_cases quote : c = apostrophe
      · subst quote
        by_cases none_left : cs = []
        · subst none_left
          show some (String.ofList (apostrophe :: read).reverse, '\n' :: rest) = _
          rw [List.reverse_cons]
        by_cases one_left : cs = [apostrophe]
        · subst one_left
          show some (String.ofList (apostrophe :: apostrophe :: read).reverse, '\n' :: rest) = _
          rw [List.reverse_cons, List.reverse_cons, List.append_assoc]
          rfl
        · rw [List.cons_append,
            readLongLiteral_apostrophe (apostrophes_ne few none_left one_left _), later]
      · by_cases lineEnd : c = '\n'
        · subst lineEnd
          exact later
        · have open_ : isPlain c = true := by
            simpa [isControl, lineEnd] using plain c List.mem_cons_self
          have no_return : c ≠ '\r' := fun h => by rw [h] at open_; revert open_; decide
          rw [List.cons_append, readLongLiteral]
          · rw [if_pos open_, later]
          all_goals
            intros
            contradiction

end Long

/-! ## 4. All texts -/

section Literal

variable {c : Char} {cs rest : List Char}

theorem readString_basic (cs rest : List Char) :
    readString ('"' :: (escapedText false 0 cs ++ '"' :: '\n' :: rest)) =
      some (String.ofList cs, '\n' :: rest) := by
  have line : readString ('"' :: (escapedText false 0 cs ++ '"' :: '\n' :: rest)) =
      readBasic [] (escapedText false 0 cs ++ '"' :: '\n' :: rest) := by
    cases cs with
    | nil => rfl
    | cons c cs =>
        have short : c = '"' → ¬ (false = true ∧ 0 < 2) := fun _ h => Bool.false_ne_true h.1
        obtain ⟨e, more, begins, other, _⟩ := escapedText_begins cs short
        rw [begins, List.cons_append, readString]
        exact fun _ same => other (List.cons.inj same).1
  rw [line, readBasic_escapedText]
  rfl

theorem readString_literal (plain : ∀ c ∈ cs, isPlain c = true) (free : apostrophe ∉ cs)
    (rest : List Char) :
    readString (apostrophe :: (cs ++ apostrophe :: '\n' :: rest)) =
      some (String.ofList cs, '\n' :: rest) := by
  have line : readString (apostrophe :: (cs ++ apostrophe :: '\n' :: rest)) =
      readLiteral [] (cs ++ apostrophe :: '\n' :: rest) := by
    cases cs with
    | nil => rfl
    | cons c cs =>
        have other : c ≠ apostrophe := fun h => free (h ▸ List.mem_cons_self)
        unfold apostrophe at other ⊢
        rw [List.cons_append, readString]
        exact fun _ same => other (List.cons.inj same).1
  rw [line, readLiteral_plain cs plain free]
  rfl

/-- Nothing is dropped from a long text that begins with no line end. -/
theorem dropLineEnd_cons (no_end : c ≠ '\n') (no_return : c ≠ '\r') :
    dropLineEnd (c :: cs) = c :: cs := by
  rw [dropLineEnd]
  · exact fun _ same => no_end (List.cons.inj same).1
  · exact fun _ same => no_return (List.cons.inj same).1

/-- The line that a long text with line ends begins on. -/
def opening (cs : List Char) : List Char := if cs.contains '\n' then ['\n'] else []

theorem dropLineEnd_opening {body : List Char}
    (begins : '\n' ∉ cs → ∃ c more, body = c :: more ∧ c ≠ '\n' ∧ c ≠ '\r') :
    dropLineEnd (opening cs ++ body) = body := by
  unfold opening
  split
  · rfl
  · rename_i none
    obtain ⟨c, more, rfl, no_end, no_return⟩ := begins (by simpa using none)
    exact dropLineEnd_cons no_end no_return

theorem readString_longBasic (cs rest : List Char) :
    readString ('"' :: '"' :: '"' :: (opening cs ++
      (escapedText true 0 cs ++ '"' :: '"' :: '"' :: '\n' :: rest))) =
      some (String.ofList cs, '\n' :: rest) := by
  show readLongBasic .off [] (dropLineEnd _) = _
  rw [dropLineEnd_opening, readLongBasic_escapedText cs (Nat.zero_le 2)]
  · rfl
  · intro none
    cases cs with
    | nil => exact ⟨'"', _, rfl, by decide, by decide⟩
    | cons c cs =>
        by_cases quote : c = '"'
        · subst quote
          exact ⟨'"', _, rfl, by decide, by decide⟩
        · have plain : c = '"' → ¬ (true = true ∧ 0 < 2) := fun h => absurd h quote
          obtain ⟨e, more, begins, _, no_return, only⟩ := escapedText_begins cs plain
          rw [begins]
          exact ⟨e, _, rfl, fun h => none (only h ▸ List.mem_cons_self), no_return⟩

theorem readString_longLiteral (plain : ∀ c ∈ cs, isControl c = false)
    (few : longestRun apostrophe 0 cs ≤ 2) (rest : List Char) :
    readString (apostrophe :: apostrophe :: apostrophe :: (opening cs ++
      (cs ++ apostrophe :: apostrophe :: apostrophe :: '\n' :: rest))) =
      some (String.ofList cs, '\n' :: rest) := by
  show readLongLiteral [] (dropLineEnd _) = _
  rw [dropLineEnd_opening, readLongLiteral_plain cs plain few]
  · rfl
  · intro none
    cases cs with
    | nil => exact ⟨apostrophe, _, rfl, by decide, by decide⟩
    | cons c cs =>
        refine ⟨c, _, rfl, fun h => none (h ▸ List.mem_cons_self), fun h => ?_⟩
        have control := plain c List.mem_cons_self
        rw [h] at control
        exact absurd control (by decide)

end Literal

/-- **How a text is quoted, and what is known of it then.** -/
theorem quoting_cases (cs : List Char) :
    (Traits.of cs).quoting = ⟨false, true⟩ ∨ (Traits.of cs).quoting = ⟨true, true⟩ ∨
    ((Traits.of cs).quoting = ⟨false, false⟩ ∧ (∀ c ∈ cs, isPlain c = true) ∧ apostrophe ∉ cs) ∨
    ((Traits.of cs).quoting = ⟨true, false⟩ ∧ (∀ c ∈ cs, isControl c = false) ∧
      longestRun apostrophe 0 cs ≤ 2) := by
  have clean : (Traits.of cs).controls = false → ∀ c ∈ cs, isControl c = false := fun h c hc =>
    Bool.eq_false_iff.mpr fun control =>
      Bool.false_ne_true (h.symm.trans (List.any_eq_true.mpr ⟨c, hc, control⟩))
  have oneLine : (Traits.of cs).lineEnds = false → '\n' ∉ cs := fun h => by
    simpa [Traits.of] using h
  unfold Traits.quoting
  split
  · exact Or.inl rfl
  split
  · rename_i h
    simp only [Bool.and_eq_true, Bool.not_eq_true', beq_iff_eq] at h
    obtain ⟨⟨no_controls, no_apostrophes⟩, no_ends⟩ := h
    refine Or.inr (Or.inr (Or.inl ⟨rfl, fun c hc => ?_, not_mem_of_longestRun no_apostrophes⟩))
    have other : c ≠ '\n' := fun h => oneLine no_ends (h ▸ hc)
    simpa [isControl, other] using clean no_controls c hc
  split
  · exact Or.inr (Or.inl rfl)
  split
  · rename_i h
    simp only [Bool.and_eq_true, Bool.not_eq_true', decide_eq_true_eq] at h
    exact Or.inr (Or.inr (Or.inr ⟨rfl, clean h.1, h.2⟩))
  · cases (Traits.of cs).lineEnds
    · exact Or.inl rfl
    · exact Or.inr (Or.inl rfl)

/-- **Every text is read back** from its literal, up to the end of its line: by the ways to quote it. -/
theorem readString_textLiteral (s : String) (rest : List Char) :
    readString ((textLiteral s).toList ++ '\n' :: rest) = some (s, '\n' :: rest) := by
  have start : (if (Traits.of s.toList).lineEnds then ['\n'] else []) = opening s.toList := rfl
  have back : String.ofList s.toList = s := String.ofList_toList
  unfold textLiteral
  rw [String.toList_ofList]
  rcases quoting_cases s.toList with q | q | ⟨q, plain, free⟩ | ⟨q, clean, few⟩
  · rw [q]
    simpa [List.append_assoc, back] using readString_basic s.toList rest
  · rw [q]
    simpa [List.replicate, List.append_assoc, back, start] using readString_longBasic s.toList rest
  · rw [q]
    simpa [List.append_assoc, back] using readString_literal plain free rest
  · rw [q]
    simpa [List.replicate, List.append_assoc, back, start] using
      readString_longLiteral clean few rest

end SchemaPages.Toml
