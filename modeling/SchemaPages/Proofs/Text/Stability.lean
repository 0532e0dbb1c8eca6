import SchemaPages.Proofs.Text.Canonical
/-!
# Joined words that are joined again

A name is joined from its words, each with a capital. Joining it again should change nothing: it has
nothing but letters and numbers, and a capital as its first one. There are 26 small letters whose
capital has a mark behind it, which is no letter. A word that begins with one of them gets the mark into
the name, and the second time the mark is taken for a separator.

* `bitsOf`, `bitsOfRanges`: tables of code points as bits, so that whole tables are compared at once;
* `TablesChecked`, `tables_checked`: what is checked of the tables of letters and of upper cases;
* `TablesChecked.upper_of_letter`: the upper case of a letter begins with a letter that is its own
  upper case;
* `markedCapitals`, `TablesChecked.letters_upper_iff`: the letters whose upper case has a mark;
* `Steady`, `joinedWords_stable_iff`: which names have letters and numbers only, and are the same when
  their words are joined again.
-/

namespace SchemaPages.Text

/-! ## 1. Sets of code points -/

/-- Numbers as the bits of one number. -/
def bitsOf (ns : List Nat) : Nat := ns.foldr (fun n bits => (1 <<< n) ||| bits) 0

theorem testBit_bitsOf (ns : List Nat) (n : Nat) : (bitsOf ns).testBit n = decide (n ∈ ns) := by
  induction ns with
  | nil => simp [bitsOf]
  | cons m rest ih =>
      show ((1 <<< m) ||| bitsOf rest).testBit n = _
      rw [Nat.testBit_or, ih, Nat.one_shiftLeft, Nat.testBit_two_pow]
      simp [eq_comm]

/-- The numbers in closed ranges as the bits of one number. -/
def bitsOfRanges (ranges : List (Nat × Nat)) : Nat :=
  ranges.foldr (fun r bits => (((1 <<< (r.2 + 1 - r.1)) - 1) <<< r.1) ||| bits) 0

theorem testBit_bitsOfRanges (ranges : List (Nat × Nat)) (n : Nat) :
    (bitsOfRanges ranges).testBit n = inRanges ranges n := by
  induction ranges with
  | nil => simp [bitsOfRanges, inRanges]
  | cons r rest ih =>
      show ((((1 <<< (r.2 + 1 - r.1)) - 1) <<< r.1) ||| bitsOfRanges rest).testBit n =
        ((r.1 ≤ n && n ≤ r.2) || inRanges rest n)
      rw [Nat.testBit_or, ih, Nat.one_shiftLeft, Nat.testBit_shiftLeft,
        Nat.testBit_two_pow_sub_one]
      congr 1
      rw [Bool.eq_iff_iff]
      simp only [Bool.and_eq_true, decide_eq_true_eq]
      omega

theorem inRanges_append (a b : List (Nat × Nat)) (n : Nat) :
    inRanges (a ++ b) n = (inRanges a n || inRanges b n) := List.any_append

/-! ## 2. What is checked of the tables -/

/-- The letters and numbers of ASCII. -/
def asciiLetterRanges : List (Nat × Nat) := [(0x30, 0x39), (0x41, 0x5A), (0x61, 0x7A)]

/-- All letters and numbers. -/
def letterBits : Nat := bitsOfRanges (asciiLetterRanges ++ letterRanges)

/-- Code points at the distances of the members of a run, from a start. -/
def runFrom (start : Nat) (r : Nat × Nat × Nat × Nat) : List Nat :=
  (List.range ((r.2.1 - r.1) / r.2.2.1 + 1)).map fun i => start + i * r.2.2.1

/-- The code points that differ from their upper case. -/
def changedCodes : List Nat :=
  List.range' 0x61 26 ++ upperRuns.flatMap (fun r => runFrom r.1 r) ++ upperExpansions.map Prod.fst

/-- The code points with which the upper case of letters begins. Small letters in circles are symbols,
    and so are their capitals. -/
def capitalCodes : List Nat :=
  (upperRuns.filter (·.1 != 0x24D0)).flatMap (fun r => runFrom r.2.2.2 r)
    ++ upperExpansions.filterMap (·.2.head?)

/-- **The letters whose upper case has a mark**, by code points: the small letter j with caron, and some
    Latin and Greek letters with accents. -/
def markedCapitals : List Nat :=
  [0x1F0, 0x390, 0x3B0, 0x1E96, 0x1E97, 0x1E98, 0x1E99, 0x1F50, 0x1F52, 0x1F54, 0x1F56, 0x1FB6, 0x1FB7,
   0x1FC6, 0x1FC7, 0x1FD2, 0x1FD3, 0x1FD6, 0x1FD7, 0x1FE2, 0x1FE3, 0x1FE4, 0x1FE6, 0x1FE7, 0x1FF6,
   0x1FF7]

/-- **What is checked of the tables**, entry by entry. The lemmas on letters assume it; the tables are
    gone through once, for `tables_checked`. -/
structure TablesChecked : Prop where
  letters_ascii : ∀ n < 0x80, (Char.ofNat n).isAlphanum = letterBits.testBit n
  letters_valid : ∀ r ∈ asciiLetterRanges ++ letterRanges,
    r.2 < 0xD800 ∨ 0xDFFF < r.1 ∧ r.2 < 0x110000
  unchanged_ascii : ∀ n < 0x80, n ∉ List.range' 0x61 26 → (Char.ofNat n).toUpper = Char.ofNat n
  capital_ascii : ∀ n < 0x80, isLetterOrNumber (Char.ofNat n) = true →
    isLetterOrNumber (Char.ofNat n).toUpper = true ∧
      upper (Char.ofNat n).toUpper = [(Char.ofNat n).toUpper]
  capitals_letters : bitsOf capitalCodes &&& letterBits = bitsOf capitalCodes
  capitals_unchanged : bitsOf capitalCodes &&& bitsOf changedCodes = 0
  circled_run : ∀ r ∈ upperRuns, r.1 = 0x24D0 → r.2.1 = 0x24E9
  circled_symbols : bitsOfRanges [(0x24D0, 0x24E9)] &&& letterBits = 0
  marked_expanded : ∀ n ∈ markedCapitals, upperExpansions.lookup n ≠ none
  expansions_filled : ∀ e ∈ upperExpansions, e.2 ≠ []
  expansions_beyond : ∀ e ∈ upperExpansions, 0x80 ≤ e.1
  expansions_valid : ∀ e ∈ upperExpansions, ∀ n ∈ e.2, n < 0xD800
  expansions_marked : ∀ e ∈ upperExpansions,
    (∀ n ∈ e.2, letterBits.testBit n = true) ↔ e.1 ∉ markedCapitals

/-! ## 3. Letters and their upper case -/

theorem upper_of_ascii {c : Char} (h : isAscii c = true) : upper c = [c.toUpper] := by
  rw [upper, if_pos h]

theorem upper_of_run {c : Char} (beyond : ¬ isAscii c = true)
    (h : upperExpansions.lookup c.toNat = none) :
    upper c = [((imageInRuns upperRuns c.toNat).map Char.ofNat).getD c] := by
  rw [upper, if_neg beyond, h]

theorem mem_runFrom {r : Nat × Nat × Nat × Nat} {n : Nat} (last : n ≤ r.2.1)
    (meets : (n - r.1) % r.2.2.1 = 0) (start : Nat) : start + (n - r.1) ∈ runFrom start r := by
  refine List.mem_map.mpr ⟨(n - r.1) / r.2.2.1, List.mem_range.mpr ?_, ?_⟩
  · exact Nat.lt_succ_of_le (Nat.div_le_div_right (by omega))
  · rw [Nat.div_mul_cancel (Nat.dvd_of_mod_eq_zero meets)]

theorem imageInRuns_eq_none {n : Nat} (h : n ∉ upperRuns.flatMap fun r => runFrom r.1 r) :
    imageInRuns upperRuns n = none := by
  unfold imageInRuns
  rw [Option.map_eq_none_iff, List.find?_eq_none]
  intro r hr meets
  simp only [Bool.and_eq_true, decide_eq_true_eq, beq_iff_eq] at meets
  have there := mem_runFrom meets.1.2 meets.2 r.1
  rw [Nat.add_sub_cancel' meets.1.1] at there
  exact h (List.mem_flatMap.mpr ⟨r, hr, there⟩)

namespace TablesChecked

variable (checked : TablesChecked)

include checked

theorem isLetterOrNumber_eq (c : Char) : isLetterOrNumber c = letterBits.testBit c.toNat := by
  unfold isLetterOrNumber isAscii
  split
  · rename_i ascii
    rw [← checked.letters_ascii c.toNat (of_decide_eq_true ascii), Char.ofNat_toNat]
  · rename_i beyond
    have none_ascii : inRanges asciiLetterRanges c.toNat = false := by
      simp only [decide_eq_true_eq] at beyond
      simp only [asciiLetterRanges, inRanges, List.any_cons, List.any_nil, Bool.or_false,
        Bool.or_eq_false_iff, Bool.and_eq_false_iff, decide_eq_false_iff_not]
      omega
    rw [letterBits, testBit_bitsOfRanges, inRanges_append, none_ascii, Bool.false_or]

/-- Letters and numbers are characters. -/
theorem isLetterOrNumber_ofNat {n : Nat} (h : letterBits.testBit n = true) :
    (Char.ofNat n).toNat = n ∧ isLetterOrNumber (Char.ofNat n) = true := by
  have code : (Char.ofNat n).toNat = n := by
    have there := h
    rw [letterBits, testBit_bitsOfRanges] at there
    obtain ⟨r, hr, within⟩ := List.any_eq_true.mp there
    simp only [Bool.and_eq_true, decide_eq_true_eq] at within
    have valid : n.isValidChar := by
      rcases checked.letters_valid r hr with low | high
      · exact Or.inl (by omega)
      · exact Or.inr ⟨by omega, by omega⟩
    unfold Char.ofNat
    rw [dif_pos valid]
    rfl
  refine ⟨code, ?_⟩
  rw [checked.isLetterOrNumber_eq, code, h]

theorem upper_of_expansion {c : Char} {image : List Nat}
    (h : upperExpansions.lookup c.toNat = some image) : upper c = image.map Char.ofNat := by
  have beyond : ¬ isAscii c = true := fun ascii =>
    Nat.not_lt_of_le (checked.expansions_beyond _ (mem_upperExpansions h)) (of_decide_eq_true ascii)
  rw [upper, if_neg beyond, h]

/-- A character that is not changed is its own upper case. -/
theorem upper_of_unchanged {c : Char} (h : c.toNat ∉ changedCodes) : upper c = [c] := by
  unfold changedCodes at h
  rw [List.mem_append, List.mem_append, not_or, not_or] at h
  obtain ⟨⟨small, run⟩, expansion⟩ := h
  by_cases ascii : isAscii c = true
  · have same := checked.unchanged_ascii c.toNat (of_decide_eq_true ascii) small
    rw [Char.ofNat_toNat] at same
    rw [upper_of_ascii ascii, same]
  · have single : upperExpansions.lookup c.toNat = none := by
      refine List.lookup_eq_none_iff.mpr fun e he => ?_
      simpa using fun same : c.toNat = e.1 => expansion (same ▸ List.mem_map_of_mem he)
    rw [upper_of_run ascii single, imageInRuns_eq_none run]
    rfl

/-- What upper case begins with is a letter, and is not changed again. -/
theorem capital_of_code {n : Nat} (h : n ∈ capitalCodes) :
    isLetterOrNumber (Char.ofNat n) = true ∧ upper (Char.ofNat n) = [Char.ofNat n] := by
  have there : (bitsOf capitalCodes).testBit n = true := by
    rw [testBit_bitsOf]
    exact decide_eq_true h
  have letter : letterBits.testBit n = true := by
    rw [← checked.capitals_letters, Nat.testBit_and, Bool.and_eq_true] at there
    exact there.2
  obtain ⟨code, made⟩ := checked.isLetterOrNumber_ofNat letter
  refine ⟨made, checked.upper_of_unchanged ?_⟩
  have apart := congrArg (·.testBit n) checked.capitals_unchanged
  simp only [Nat.testBit_and, there, Bool.true_and, testBit_bitsOf, Nat.zero_testBit,
    decide_eq_false_iff_not] at apart
  rw [code]
  exact apart

theorem not_circled {c : Char} (h : isLetterOrNumber c = true) :
    ¬ (0x24D0 ≤ c.toNat ∧ c.toNat ≤ 0x24E9) := by
  have apart := congrArg (·.testBit c.toNat) checked.circled_symbols
  rw [checked.isLetterOrNumber_eq] at h
  simpa [Nat.testBit_and, h, testBit_bitsOfRanges, inRanges] using apart

/-- The image of a letter in its run. -/
theorem image_mem_capitalCodes {c : Char} {n : Nat} (h : isLetterOrNumber c = true)
    (image : imageInRuns upperRuns c.toNat = some n) : n ∈ capitalCodes := by
  obtain ⟨r, found, rfl⟩ := Option.map_eq_some_iff.mp image
  have meets := List.find?_some found
  have hr := List.mem_of_find?_eq_some found
  simp only [Bool.and_eq_true, decide_eq_true_eq, beq_iff_eq] at meets
  obtain ⟨⟨first, last⟩, apart⟩ := meets
  have symbols : r.1 ≠ 0x24D0 := fun circled =>
    checked.not_circled h ⟨circled ▸ first, checked.circled_run r hr circled ▸ last⟩
  exact List.mem_append_left _ (List.mem_flatMap.mpr
    ⟨r, List.mem_filter.mpr ⟨hr, bne_iff_ne.mpr symbols⟩, mem_runFrom last apart r.2.2.2⟩)

/-- **The upper case of a letter begins with a letter that is its own upper case.** -/
theorem upper_of_letter {c : Char} (h : isLetterOrNumber c = true) :
    ∃ d rest, upper c = d :: rest ∧ isLetterOrNumber d = true ∧ upper d = [d] := by
  by_cases ascii : isAscii c = true
  · have capital := checked.capital_ascii c.toNat (of_decide_eq_true ascii)
    rw [Char.ofNat_toNat] at capital
    exact ⟨c.toUpper, [], upper_of_ascii ascii, capital h⟩
  cases given : upperExpansions.lookup c.toNat with
  | some image =>
      have there := mem_upperExpansions given
      have made := checked.upper_of_expansion given
      obtain ⟨n, rest, rfl⟩ := List.exists_cons_of_ne_nil (checked.expansions_filled _ there)
      exact ⟨Char.ofNat n, rest.map Char.ofNat, made, checked.capital_of_code
        (List.mem_append_right _ (List.mem_filterMap.mpr ⟨_, there, rfl⟩))⟩
  | none =>
      have made := upper_of_run ascii given
      cases image : imageInRuns upperRuns c.toNat with
      | none =>
          rw [image] at made
          exact ⟨c, [], made, h, made⟩
      | some n =>
          rw [image] at made
          exact ⟨Char.ofNat n, [], made,
            checked.capital_of_code (checked.image_mem_capitalCodes h image)⟩

theorem letters_upper_iff {c : Char} (h : isLetterOrNumber c = true) :
    (∀ d ∈ upper c, isLetterOrNumber d = true) ↔ c.toNat ∉ markedCapitals := by
  cases given : upperExpansions.lookup c.toNat with
  | none =>
      have single : ∃ d, upper c = [d] := by
        by_cases ascii : isAscii c = true
        · exact ⟨_, upper_of_ascii ascii⟩
        · exact ⟨_, upper_of_run ascii given⟩
      obtain ⟨d, made⟩ := single
      obtain ⟨_, _, same, letter, _⟩ := checked.upper_of_letter h
      obtain ⟨rfl, _⟩ := List.cons.inj (made.symm.trans same)
      rw [made]
      exact iff_of_true (List.forall_mem_singleton.mpr letter)
        fun marked => checked.marked_expanded _ marked given
  | some image =>
      have there := mem_upperExpansions given
      have code : ∀ n ∈ image, isLetterOrNumber (Char.ofNat n) = letterBits.testBit n := by
        intro n hn
        have valid : n.isValidChar := Or.inl (checked.expansions_valid _ there n hn)
        rw [checked.isLetterOrNumber_eq, Char.ofNat, dif_pos valid]
        rfl
      rw [← checked.expansions_marked _ there, checked.upper_of_expansion given, List.forall_mem_map]
      exact forall₂_congr fun n hn => by rw [code n hn]

end TablesChecked

/-! ## 4. Words -/

/-- A separator parts the words before it from those behind it. -/
theorem wordsOf_append {c : Char} (h : isLetterOrNumber c = false) (xs ys : List Char) :
    wordsOf (xs ++ c :: ys) = wordsOf xs ++ wordsOf ys := by
  unfold wordsOf
  rw [splitOn_append (by simp [h]), List.filter_append]

/-- Letters and numbers are one word. -/
theorem wordsOf_letters {w : List Char} (filled : w ≠ [])
    (letters : ∀ c ∈ w, isLetterOrNumber c = true) : wordsOf w = [w] := by
  unfold wordsOf
  rw [splitOn_of_none fun c hc => by simp [letters c hc]]
  simp [filled]

theorem letter_of_mem_word {w cs : List Char} (h : w ∈ wordsOf cs) :
    w ≠ [] ∧ ∀ c ∈ w, isLetterOrNumber c = true := by
  obtain ⟨piece, filled⟩ := List.mem_filter.mp h
  exact ⟨by simpa using filled, fun c hc => by simpa using not_sep_of_mem_splitOn piece c hc⟩

/-- The words of a text joined, each with a capital. -/
def joined (cs : List Char) : List Char := (wordsOf cs).flatMap capitalised

theorem joined_append {c : Char} (h : isLetterOrNumber c = false) (xs ys : List Char) :
    joined (xs ++ c :: ys) = joined xs ++ joined ys := by
  unfold joined
  rw [wordsOf_append h, List.flatMap_append]

theorem toList_joinedWords (s : String) : (joinedWords s).toList = joined s.toList :=
  String.toList_ofList

/-- **What is joined begins with a letter that is its own upper case.** -/
theorem joined_start (checked : TablesChecked) (cs : List Char) : joined cs = [] ∨
    ∃ d rest, joined cs = d :: rest ∧ isLetterOrNumber d = true ∧ upper d = [d] := by
  unfold joined
  cases words : wordsOf cs with
  | nil => exact Or.inl rfl
  | cons w others =>
      obtain ⟨filled, letters⟩ := letter_of_mem_word (words ▸ List.mem_cons_self : w ∈ wordsOf cs)
      obtain ⟨c, rest, rfl⟩ := List.exists_cons_of_ne_nil filled
      obtain ⟨d, more, made, letter, capital⟩ :=
        checked.upper_of_letter (letters c List.mem_cons_self)
      refine Or.inr ⟨d, more ++ rest ++ others.flatMap capitalised, ?_, letter, capital⟩
      rw [List.flatMap_cons, capitalised, made]
      rfl

/-- Letters and numbers are joined to themselves, if the first is its own upper case. -/
theorem joined_letters {d : Char} {rest : List Char} (capital : upper d = [d])
    (letters : ∀ c ∈ d :: rest, isLetterOrNumber c = true) : joined (d :: rest) = d :: rest := by
  unfold joined
  rw [wordsOf_letters (List.cons_ne_nil d rest) letters, List.flatMap_singleton, capitalised, capital]
  rfl

/-- **What is joined is joined to itself exactly if it has nothing but letters and numbers.** -/
theorem joined_joined_iff (checked : TablesChecked) (cs : List Char) :
    joined (joined cs) = joined cs ↔ ∀ c ∈ joined cs, isLetterOrNumber c = true := by
  rcases joined_start checked cs with empty | ⟨d, rest, made, letter, capital⟩
  · rw [empty]
    exact iff_of_true rfl fun c hc => absurd hc List.not_mem_nil
  rw [made]
  refine ⟨fun same => ?_, joined_letters capital⟩
  cases first : (d :: rest).find? (fun c => !isLetterOrNumber c) with
  | none => exact fun c hc => by simpa using List.find?_eq_none.mp first c hc
  | some m =>
      -- the first mark is a separator; what is joined behind it begins with a letter and not with it
      obtain ⟨mark, front, after, split, letters⟩ := List.find?_eq_some_iff_append.mp first
      simp only [Bool.not_eq_true', Bool.not_not] at mark letters
      cases front with
      | nil =>
          obtain ⟨rfl, _⟩ := List.cons.inj split
          exact absurd letter (by simp [mark])
      | cons f front =>
          obtain ⟨rfl, _⟩ := List.cons.inj split
          rw [split, joined_append mark, joined_letters capital letters] at same
          have behind := List.append_cancel_left same
          rcases joined_start checked after with empty | ⟨x, more, begins, other, _⟩
          · rw [empty] at behind
            cases behind
          · obtain ⟨rfl, _⟩ := List.cons.inj (begins.symm.trans behind)
            exact absurd other (by simp [mark])

/-! ## 5. Steady names -/

/-- **A name is steady** if none of its words begins with a letter whose upper case has a mark. -/
def Steady (s : String) : Prop :=
  ∀ w ∈ wordsOf s.toList, ∀ c ∈ w.head?, c.toNat ∉ markedCapitals

theorem letters_joined_iff (checked : TablesChecked) (s : String) :
    (∀ c ∈ joined s.toList, isLetterOrNumber c = true) ↔ Steady s := by
  unfold joined Steady
  rw [List.forall_mem_flatMap]
  refine forall₂_congr fun w hw => ?_
  obtain ⟨filled, letters⟩ := letter_of_mem_word hw
  obtain ⟨c, rest, rfl⟩ := List.exists_cons_of_ne_nil filled
  obtain ⟨letter, later⟩ := List.forall_mem_cons.mp letters
  rw [capitalised, List.forall_mem_append, checked.letters_upper_iff letter,
    and_iff_left later]
  simp

theorem tables_checked : TablesChecked := by
  constructor <;> decide +kernel

/-- **Which names are stable.** The joined words of a name have nothing but letters and numbers exactly
    if the name is steady, and exactly then are they the same when they are joined again. -/
theorem joinedWords_stable_iff (s : String) :
    ((∀ c ∈ (joinedWords s).toList, isLetterOrNumber c = true) ↔ Steady s) ∧
      (joinedWords (joinedWords s) = joinedWords s ↔ Steady s) := by
  have again : joinedWords (joinedWords s) = joinedWords s ↔
      joined (joined s.toList) = joined s.toList := by
    rw [← String.toList_inj, toList_joinedWords, toList_joinedWords]
  have letters := letters_joined_iff tables_checked s
  rw [again, joined_joined_iff tables_checked, toList_joinedWords]
  exact ⟨letters, letters⟩

/-- **A letter whose capital has a mark**: the small letter j with caron. The mark is no letter, and is
    gone when the words are joined again. -/
theorem not_stable_caron :
    joinedWords "ǰ" = "J\u030C" ∧ isLetterOrNumber '\u030C' = false ∧
      joinedWords (joinedWords "ǰ") = "J" := by
  decide +kernel

end SchemaPages.Text
