import SchemaPages.Text.Character
/-!
# Cutting texts

Texts are cut as lists of characters, so that each function follows its list.

* `splitOn`: the pieces between separators, always one more than there are separators;
* `splitOnce`, `cutAt?`: what stands before and after the first separator;
* `splitOn_append`, `cutAt?_eq_some_iff`: where the separators are;
* `trim`, `trimEnd`: a text without the white space around it.
-/

namespace SchemaPages.Text

/-- The pieces between the characters that separate. -/
def splitOn (sep : Char → Bool) : List Char → List (List Char)
  | [] => [[]]
  | c :: rest =>
    if sep c then [] :: splitOn sep rest
    else match splitOn sep rest with
      | piece :: pieces => (c :: piece) :: pieces
      | [] => [[c]]

theorem splitOn_ne_nil (sep : Char → Bool) (cs : List Char) : splitOn sep cs ≠ [] := by
  cases cs with
  | nil => simp [splitOn]
  | cons c rest =>
    simp only [splitOn]
    split
    · simp
    · split <;> simp

theorem splitOn_append {sep : Char → Bool} {c : Char} (hc : sep c = true) (xs ys : List Char) :
    splitOn sep (xs ++ c :: ys) = splitOn sep xs ++ splitOn sep ys := by
  induction xs with
  | nil => simp [splitOn, hc]
  | cons x rest ih =>
      rw [List.cons_append]
      simp only [splitOn]
      by_cases hx : sep x = true
      · rw [if_pos hx, if_pos hx, ih, List.cons_append]
      · rw [if_neg hx, if_neg hx, ih]
        cases h : splitOn sep rest with
        | nil => exact absurd h (splitOn_ne_nil sep rest)
        | cons piece pieces => rfl

theorem splitOn_of_none {sep : Char → Bool} {xs : List Char} (h : ∀ c ∈ xs, sep c = false) :
    splitOn sep xs = [xs] := by
  induction xs with
  | nil => rfl
  | cons x rest ih =>
      simp only [splitOn]
      rw [h x List.mem_cons_self, if_neg Bool.false_ne_true,
        ih fun c hc => h c (List.mem_cons_of_mem _ hc)]

/-- What stands before and after the first separator, if there is one. -/
def splitOnce (sep : Char) : List Char → Option (List Char × List Char)
  | [] => none
  | c :: rest =>
    if c == sep then some ([], rest)
    else (splitOnce sep rest).map fun (before, after) => (c :: before, after)

/-- **A text is cut at its first separator**: none stands before the place. -/
theorem splitOnce_eq_some_iff {sep : Char} {cs before after : List Char} :
    splitOnce sep cs = some (before, after) ↔ cs = before ++ sep :: after ∧ sep ∉ before := by
  induction cs generalizing before with
  | nil => simp [splitOnce]
  | cons c rest ih =>
    simp only [splitOnce]
    by_cases here : c = sep
    · rw [if_pos (by simpa using here)]
      cases before with
      | nil => simp [here]
      | cons b front => grind
    · rw [if_neg (by simpa using here), Option.map_eq_some_iff]
      constructor
      · rintro ⟨⟨front, _⟩, cut, same⟩
        obtain ⟨rfl, rfl⟩ := Prod.mk.inj same
        obtain ⟨split, fresh⟩ := ih.mp cut
        exact ⟨congrArg (c :: ·) split, by simp [fresh, Ne.symm here]⟩
      · rintro ⟨split, fresh⟩
        cases before with
        | nil => exact absurd (List.cons.inj split).1 here
        | cons b front =>
          obtain ⟨rfl, later⟩ := List.cons.inj split
          exact ⟨(front, after), ih.mpr ⟨later, fun h => fresh (List.mem_cons_of_mem _ h)⟩, rfl⟩

/-- A text is not cut if it has no separator. -/
theorem splitOnce_eq_none_iff {sep : Char} {cs : List Char} :
    splitOnce sep cs = none ↔ sep ∉ cs := by
  induction cs with
  | nil => simp [splitOnce]
  | cons c rest ih =>
    by_cases here : c = sep
    · simp [splitOnce, here]
    · simp [splitOnce, here, ih, Ne.symm here]

/-- Drops the elements at the end that pass the test. -/
def dropEndWhile {α : Type} (p : α → Bool) (l : List α) : List α :=
  (l.reverse.dropWhile p).reverse

/-- A text without white space at its end. -/
def trimEnd (s : String) : String :=
  String.ofList (dropEndWhile isBlank s.toList)

/-- A text without white space at either end. -/
def trim (s : String) : String :=
  String.ofList (dropEndWhile isBlank (s.toList.dropWhile isBlank))

/-- The pieces of a text between two separators, as texts. -/
def pieces (sep : Char) (s : String) : List String :=
  (splitOn (· == sep) s.toList).map String.ofList

/-- Cuts a text at the first separator. -/
def cutAt? (sep : Char) (s : String) : Option (String × String) :=
  (splitOnce sep s.toList).map fun (before, after) => (String.ofList before, String.ofList after)

theorem cutAt?_eq_some_iff {sep : Char} {s key rest : String} :
    cutAt? sep s = some (key, rest) ↔
      s.toList = key.toList ++ sep :: rest.toList ∧ sep ∉ key.toList := by
  unfold cutAt?
  rw [← splitOnce_eq_some_iff, Option.map_eq_some_iff]
  constructor
  · rintro ⟨⟨before, after⟩, cut, same⟩
    obtain ⟨rfl, rfl⟩ := Prod.mk.inj same
    rw [cut, String.toList_ofList, String.toList_ofList]
  · intro cut
    exact ⟨(key.toList, rest.toList), cut, by simp only [String.ofList_toList]⟩

theorem cutAt?_eq_none_iff {sep : Char} {s : String} : cutAt? sep s = none ↔ sep ∉ s.toList := by
  unfold cutAt?
  rw [Option.map_eq_none_iff, splitOnce_eq_none_iff]

/-- What is left of a text after the given beginning, if it begins so. -/
def dropStart? (start : String) (s : String) : Option String :=
  if start.toList.isPrefixOf s.toList then
    some (String.ofList (s.toList.drop start.length))
  else none

/-- Whether a text begins with another. -/
def beginsWith (start : String) (s : String) : Bool :=
  start.toList.isPrefixOf s.toList

/-- Whether a text ends with another. -/
def finishesWith (ending : String) (s : String) : Bool :=
  ending.toList.isSuffixOf s.toList

/-- What is left of a text before the given ending, if it ends so. -/
def dropEnd? (ending : String) (s : String) : Option String :=
  if finishesWith ending s then some (String.ofList (s.toList.take (s.length - ending.length)))
  else none

theorem finishesWith_append (s ending : String) : finishesWith ending (s ++ ending) = true := by
  unfold finishesWith
  rw [String.toList_append]
  exact List.isSuffixOf_iff_suffix.mpr (List.suffix_append _ _)

theorem dropEnd?_append (s ending : String) : dropEnd? ending (s ++ ending) = some s := by
  unfold dropEnd?
  rw [if_pos (finishesWith_append s ending), String.length_append, Nat.add_sub_cancel,
    String.toList_append, ← String.length_toList, List.take_left, String.ofList_toList]

theorem dropEnd?_eq_none {s ending : String} (h : finishesWith ending s = false) :
    dropEnd? ending s = none := by
  unfold dropEnd?
  rw [if_neg (Bool.eq_false_iff.mp h)]

/-- Joins texts with a separator between neighbours. -/
def join (sep : String) : List String → String
  | [] => ""
  | [s] => s
  | s :: rest => s ++ sep ++ join sep rest

end SchemaPages.Text
