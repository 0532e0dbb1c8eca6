import SchemaPages.Schema.Cardinality
import SchemaPages.Text.Split
/-!
# Cardinalities read back

The text of a cardinality says how many values a slot may have, in a form of its own for the most
common bounds, and with a mark on recommended slots. It can be read back: the mark tells the
recommended slots, and what stands before it gives the bounds.

* `Bounds.read?`: bounds from their text;
* `Bounds.read?_text`: the text of bounds gives the bounds;
* `Slot.cardinality_read`: the text of a cardinality gives the mark and the bounds.
-/

namespace SchemaPages

/-! ## 1. Reading bounds -/

namespace Bounds

/-- The number that digits write. -/
def number? (cs : List Char) : Option Nat :=
  if cs ≠ [] ∧ cs.all Char.isDigit then some (Nat.ofDigitChars 10 cs 0) else none

/-- A limit: a number, or a star for none. -/
def limit? (cs : List Char) : Option (Option Nat) :=
  if cs = ['*'] then some none else (number? cs).map some

/-- **Reads bounds.** A star is any number of values, a number exactly as many; two numbers with two dots
    between them are the least and the most, where a star stands for no limit. -/
def read? (text : String) : Option Bounds :=
  let low := text.toList.takeWhile Char.isDigit
  match text.toList.dropWhile Char.isDigit with
  | [] => (number? low).map fun n => ⟨n, some n⟩
  | ['*'] => if low = [] then some ⟨0, none⟩ else none
  | '.' :: '.' :: high => (number? low).bind fun least => (limit? high).map fun most => ⟨least, most⟩
  | _ => none

theorem isDigit_digits (n : Nat) : ∀ c ∈ Nat.toDigits 10 n, c.isDigit = true := fun _ hc =>
  Nat.isDigit_of_mem_toDigits (by decide) (by decide) hc

theorem toList_toString (n : Nat) : (toString n).toList = Nat.toDigits 10 n := Nat.toList_repr

theorem number?_digits (n : Nat) : number? (Nat.toDigits 10 n) = some n := by
  unfold number?
  rw [if_pos ⟨Nat.toDigits_ne_nil, List.all_eq_true.mpr (isDigit_digits n)⟩,
    Nat.ofDigitChars_toDigits (by decide) (by decide)]

/-- The text of a limit. -/
def limitText : Option Nat → String
  | some n => toString n
  | none => "*"

theorem limit?_limitText (most : Option Nat) : limit? (limitText most).toList = some most := by
  cases most with
  | none => rfl
  | some n =>
      have digits : Nat.toDigits 10 n ≠ ['*'] := fun star =>
        absurd (isDigit_digits n '*' (star ▸ List.mem_cons_self)) (by decide)
      show limit? (toString n).toList = _
      unfold limit?
      rw [toList_toString, if_neg digits, number?_digits]
      rfl

/-- The digits that a text begins with, and what is behind them. -/
theorem takeWhile_digits (n : Nat) (rest : List Char) (h : rest.takeWhile Char.isDigit = []) :
    (Nat.toDigits 10 n ++ rest).takeWhile Char.isDigit = Nat.toDigits 10 n := by
  rw [List.takeWhile_append_of_pos (isDigit_digits n), h, List.append_nil]

theorem dropWhile_digits (n : Nat) (rest : List Char) :
    (Nat.toDigits 10 n ++ rest).dropWhile Char.isDigit = rest.dropWhile Char.isDigit :=
  List.dropWhile_append_of_pos (isDigit_digits n)

theorem read?_single (n : Nat) : read? (toString n) = some ⟨n, some n⟩ := by
  have taken := takeWhile_digits n [] rfl
  have dropped := dropWhile_digits n []
  rw [List.append_nil] at taken dropped
  unfold read?
  rw [toList_toString, taken, dropped]
  simp [number?_digits]

theorem read?_range (n : Nat) (most : Option Nat) :
    read? (toString n ++ ".." ++ limitText most) = some ⟨n, most⟩ := by
  have text : (toString n ++ ".." ++ limitText most).toList =
      Nat.toDigits 10 n ++ '.' :: '.' :: (limitText most).toList := by
    simp
  unfold read?
  rw [text, takeWhile_digits n _ rfl, dropWhile_digits]
  show (number? (Nat.toDigits 10 n)).bind _ = _
  rw [number?_digits, Option.bind_some, limit?_limitText]
  rfl

/-- The forms of bounds: a star, a single one, and the range. -/
theorem text_cases (b : Bounds) :
    b = ⟨0, none⟩ ∧ b.text = "*" ∨ b = ⟨1, some 1⟩ ∧ b.text = "1" ∨
      b.text = toString b.least ++ ".." ++ limitText b.most := by
  obtain ⟨least, most⟩ := b
  unfold text
  split
  · rename_i zero one
    cases zero
    cases one
    exact Or.inr (Or.inr rfl)
  · rename_i zero unlimited
    cases zero
    cases unlimited
    exact Or.inl ⟨rfl, rfl⟩
  · rename_i one single
    cases one
    cases single
    exact Or.inr (Or.inl ⟨rfl, rfl⟩)
  · rename_i limited _ _
    cases limited
    exact Or.inr (Or.inr rfl)
  · rename_i unlimited _
    cases unlimited
    have whole : "..*" = ".." ++ "*" := by decide
    rw [whole, ← String.append_assoc]
    exact Or.inr (Or.inr rfl)

/-- **The text of bounds is read back**, also where it has a form of its own. -/
theorem read?_text (b : Bounds) : read? b.text = some b := by
  rcases b.text_cases with ⟨rfl, text⟩ | ⟨rfl, text⟩ | text
  · decide
  · decide
  · rw [text, read?_range]

example : read? "2..*" = some ⟨2, none⟩ := by decide

/-! ## 2. The mark on recommended slots -/

theorem underscore_not_mem_digits (n : Nat) : '_' ∉ (toString n).toList := by
  rw [toList_toString]
  exact fun there => absurd (isDigit_digits n '_' there) (by decide)

/-- The mark is in no text of bounds. -/
theorem underscore_not_mem_text (b : Bounds) : '_' ∉ b.text.toList := by
  rcases b.text_cases with ⟨_, text⟩ | ⟨_, text⟩ | text
  · rw [text]
    decide
  · rw [text]
    decide
  · rw [text, String.toList_append, String.toList_append, List.mem_append, List.mem_append, not_or,
      not_or]
    refine ⟨⟨underscore_not_mem_digits _, by decide⟩, ?_⟩
    cases b.most with
    | none => decide
    | some n => exact underscore_not_mem_digits n

end Bounds

namespace Slot

/-- A text without the mark at its end. -/
def unmarked (text : String) : String := (Text.dropEnd? recommendedMark text).getD text

/-- The bounds of a slot in words, without the mark. -/
def boundsText (s : Slot) : String :=
  match s.exactCardinality with
  | some n => toString n
  | none => s.openBounds.text

theorem read?_boundsText (s : Slot) : Bounds.read? s.boundsText = some s.bounds := by
  unfold boundsText bounds
  cases s.exactCardinality with
  | some n => exact Bounds.read?_single n
  | none => exact Bounds.read?_text s.openBounds

theorem underscore_not_mem_boundsText (s : Slot) : '_' ∉ s.boundsText.toList := by
  unfold boundsText
  cases s.exactCardinality with
  | some n => exact Bounds.underscore_not_mem_digits n
  | none => exact Bounds.underscore_not_mem_text s.openBounds

/-- A text of bounds does not end with the mark. -/
theorem finishesWith_boundsText (s : Slot) :
    Text.finishesWith recommendedMark s.boundsText = false := by
  rw [Bool.eq_false_iff]
  intro ends
  obtain ⟨before, same⟩ := List.isSuffixOf_iff_suffix.mp ends
  refine s.underscore_not_mem_boundsText (same ▸ List.mem_append_right before ?_)
  decide

theorem cardinality_eq (s : Slot) :
    s.cardinality = s.boundsText ++ if s.isRecommended then recommendedMark else "" := rfl

/-- **The mark tells the recommended slots.** -/
theorem finishesWith_cardinality (s : Slot) :
    Text.finishesWith recommendedMark s.cardinality = s.isRecommended := by
  rw [cardinality_eq]
  cases s.isRecommended with
  | true => exact Text.finishesWith_append _ _
  | false => rw [if_neg Bool.false_ne_true, String.append_empty, finishesWith_boundsText]

/-- **What stands before the mark is the text of the bounds.** -/
theorem unmarked_cardinality (s : Slot) : unmarked s.cardinality = s.boundsText := by
  have mark := s.finishesWith_cardinality
  unfold unmarked
  rw [cardinality_eq] at mark ⊢
  cases recommended : s.isRecommended with
  | true => rw [if_pos rfl, Text.dropEnd?_append, Option.getD_some]
  | false =>
      rw [recommended] at mark
      rw [Text.dropEnd?_eq_none mark, Option.getD_none, if_neg Bool.false_ne_true,
        String.append_empty]

/-- **A cardinality is read back.** It ends with the mark exactly if the slot is recommended; without
    the mark it reads as the bounds of the slot; so slots with other bounds have another text. -/
theorem cardinality_read (s : Slot) :
    (Text.finishesWith recommendedMark s.cardinality = true ↔ s.recommended = some true) ∧
      Bounds.read? (unmarked s.cardinality) = some s.bounds ∧
      ∀ t : Slot, t.bounds ≠ s.bounds → t.cardinality ≠ s.cardinality := by
  have read : ∀ t : Slot, Bounds.read? (unmarked t.cardinality) = some t.bounds := fun t => by
    rw [unmarked_cardinality, read?_boundsText]
  refine ⟨?_, read s, fun t other same => other ?_⟩
  · rw [finishesWith_cardinality, isRecommended]
    cases s.recommended <;> simp
  · have text := read t
    rw [same, read s] at text
    exact (Option.some.inj text).symm

end Slot

end SchemaPages
