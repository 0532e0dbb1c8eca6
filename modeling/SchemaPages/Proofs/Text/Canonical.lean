import SchemaPages.Text.Canonical
/-!
# Characters of canonical names

Canonical names are made of the characters of words. Case maps change letters only, so marks such as
slashes and dots are in no canonical name.

* `eq_of_mem_upper`: what stands before the letters is in the image of nothing else;
* `mem_joinedWords`, `mem_underscored`: where the characters of a canonical name are from;
* `slash_not_mem_joinedWords`, `slash_not_mem_underscored`: a canonical name is a single step of a
  path.
-/

namespace SchemaPages.Text

/-! ## 1. Upper case -/

/-- The first of the letters. -/
def firstLetter : Nat := 0x41

theorem upperRuns_letters : ∀ r ∈ upperRuns, firstLetter ≤ r.2.2.2 := by decide +kernel

theorem upperExpansions_letters : ∀ e ∈ upperExpansions, ∀ n ∈ e.2, firstLetter ≤ n := by
  decide +kernel

/-- A number that is no character stands for the first of all characters. -/
theorem toNat_ofNat_of_pos {n : Nat} (h : 0 < (Char.ofNat n).toNat) : (Char.ofNat n).toNat = n := by
  unfold Char.ofNat at h ⊢
  by_cases valid : n.isValidChar
  · rw [dif_pos valid]
    rfl
  · rw [dif_neg valid] at h
    exact absurd h (by decide)

theorem letter_of_imageInRuns {n m : Nat} (h : imageInRuns upperRuns n = some m) :
    firstLetter ≤ m := by
  obtain ⟨r, found, rfl⟩ := Option.map_eq_some_iff.mp h
  exact Nat.le_add_right_of_le (upperRuns_letters r (List.mem_of_find?_eq_some found))

theorem mem_upperExpansions {n : Nat} {image : List Nat}
    (h : upperExpansions.lookup n = some image) : (n, image) ∈ upperExpansions := by
  obtain ⟨before, after, split, _⟩ := List.lookup_eq_some_iff.mp h
  exact split ▸ List.mem_append_right before List.mem_cons_self

theorem letter_of_expansion {n m : Nat} {image : List Nat}
    (h : upperExpansions.lookup n = some image) (hm : m ∈ image) : firstLetter ≤ m :=
  upperExpansions_letters (n, image) (mem_upperExpansions h) m hm

theorem letter_of_toUpper {c : Char} (h : c.toUpper ≠ c) : firstLetter ≤ c.toUpper.toNat := by
  unfold Char.toUpper at h ⊢
  split
  · rename_i lower
    rw [UInt32.le_iff_toNat_le, UInt32.le_iff_toNat_le] at lower
    have shift : ('A'.val - 'a'.val).toNat = 2 ^ 32 - 32 := by decide
    have first : 'a'.val.toNat = 97 := rfl
    have last : 'z'.val.toNat = 122 := rfl
    show 65 ≤ (c.val + ('A'.val - 'a'.val)).toNat
    rw [UInt32.toNat_add]
    omega
  · rename_i other
    rw [dif_neg other] at h
    exact absurd rfl h

/-- **Upper case brings letters only**: a character before the letters is in no other's image. -/
theorem eq_of_mem_upper {c d : Char} (pos : 0 < d.toNat) (before : d.toNat < firstLetter)
    (h : d ∈ upper c) : d = c := by
  refine Decidable.byContradiction fun other => Nat.not_le_of_lt before ?_
  have code : ∀ n, d = Char.ofNat n → d.toNat = n := fun n e =>
    e ▸ toNat_ofNat_of_pos (e ▸ pos)
  unfold upper at h
  split at h
  · rw [List.mem_singleton] at h
    rw [h] at other ⊢
    exact letter_of_toUpper other
  · split at h
    · rename_i image found
      obtain ⟨n, hn, same⟩ := List.mem_map.mp h
      rw [code n same.symm]
      exact letter_of_expansion found hn
    · rw [List.mem_singleton] at h
      cases image : imageInRuns upperRuns c.toNat with
      | none => exact absurd (by rw [h, image]; rfl) other
      | some n =>
          rw [code n (by rw [h, image]; rfl)]
          exact letter_of_imageInRuns image

/-! ## 2. Characters of words -/

/-- No piece has a separator. -/
theorem not_sep_of_mem_splitOn {sep : Char → Bool} {cs piece : List Char}
    (h : piece ∈ splitOn sep cs) : ∀ c ∈ piece, sep c = false := by
  induction cs generalizing piece with
  | nil =>
      rw [splitOn, List.mem_singleton] at h
      subst h
      exact fun c hc => absurd hc List.not_mem_nil
  | cons x rest ih =>
      simp only [splitOn] at h
      split at h
      · rcases List.mem_cons.mp h with rfl | later
        · exact fun c hc => absurd hc List.not_mem_nil
        · exact ih later
      · rename_i plain
        cases pieces : splitOn sep rest with
        | nil => exact absurd pieces (splitOn_ne_nil sep rest)
        | cons first others =>
            rw [pieces] at h ih
            rcases List.mem_cons.mp h with rfl | later
            · intro c hc
              rcases List.mem_cons.mp hc with rfl | hc
              · exact Bool.eq_false_iff.mpr plain
              · exact ih List.mem_cons_self c hc
            · exact ih (List.mem_cons_of_mem _ later)

theorem mem_capitalised {c : Char} {word : List Char} (h : c ∈ capitalised word) :
    ∃ d ∈ word, c = d ∨ c ∈ upper d := by
  cases word with
  | nil => cases h
  | cons first rest =>
      rcases List.mem_append.mp h with capital | later
      · exact ⟨first, List.mem_cons_self, Or.inr capital⟩
      · exact ⟨c, List.mem_cons_of_mem _ later, Or.inl rfl⟩

/-- **Joined words have letters and numbers**, and their upper case. -/
theorem mem_joinedWords {c : Char} {s : String} (h : c ∈ (joinedWords s).toList) :
    ∃ d, isLetterOrNumber d = true ∧ (c = d ∨ c ∈ upper d) := by
  unfold joinedWords at h
  rw [String.toList_ofList] at h
  obtain ⟨word, hw, hc⟩ := List.mem_flatMap.mp h
  obtain ⟨d, hd, made⟩ := mem_capitalised hc
  refine ⟨d, ?_, made⟩
  simpa using not_sep_of_mem_splitOn (List.mem_filter.mp hw).1 d hd

theorem mem_underscoreRuns {c : Char} {inRun : Bool} {cs : List Char}
    (h : c ∈ underscoreRuns inRun cs) : isWordChar c = true ∨ c = '_' := by
  induction cs generalizing inRun with
  | nil => cases h
  | cons x rest ih =>
      simp only [underscoreRuns] at h
      split at h
      · rename_i word
        rcases List.mem_cons.mp h with rfl | later
        · exact Or.inl word
        · exact ih later
      · split at h
        · exact ih h
        · rcases List.mem_cons.mp h with rfl | later
          · exact Or.inr rfl
          · exact ih later

/-- **Texts with underscores have nothing but word characters.** -/
theorem mem_underscored {c : Char} {s : String} (h : c ∈ (underscored s).toList) :
    isWordChar c = true := by
  unfold underscored at h
  rw [String.toList_ofList] at h
  rcases mem_underscoreRuns h with word | rfl
  · exact word
  · rfl

theorem slash_not_mem_joinedWords (s : String) : '/' ∉ (joinedWords s).toList := by
  intro h
  obtain ⟨d, letter, made⟩ := mem_joinedWords h
  have same : '/' = d := made.elim id (eq_of_mem_upper (by decide) (by decide))
  rw [← same] at letter
  cases letter

theorem slash_not_mem_underscored (s : String) : '/' ∉ (underscored s).toList := by
  intro h
  cases mem_underscored h

end SchemaPages.Text
