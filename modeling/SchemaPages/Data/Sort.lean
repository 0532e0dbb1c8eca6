/-!
# Stable sorting

Elements with equal keys keep their order.

* `sortBy`: sorts by a key;
* `perm_sortBy`, `mem_sortBy`: nothing is lost or added;
* `pairwise_sortBy`: what is sorted by texts is in their order.
-/

namespace SchemaPages

/-- Puts an element behind all those at the start that it is not before. -/
def insertBy {α : Type} (before : α → α → Bool) (a : α) : List α → List α
  | [] => [a]
  | b :: rest => if before a b then a :: b :: rest else b :: insertBy before a rest

/-- Sorts a list so that no element comes after one that it is before. -/
def sortWith {α : Type} (before : α → α → Bool) (l : List α) : List α :=
  l.foldl (fun sorted a => insertBy before a sorted) []

/-- Sorts a list by a key. -/
def sortBy {α κ : Type} [LT κ] [DecidableRel (α := κ) (· < ·)] (key : α → κ) (l : List α) : List α :=
  sortWith (fun a b => decide (key a < key b)) l

theorem perm_insertBy {α : Type} (before : α → α → Bool) (a : α) (l : List α) :
    (insertBy before a l).Perm (a :: l) := by
  induction l with
  | nil => exact .refl _
  | cons b rest ih =>
    simp only [insertBy]
    split
    · exact .refl _
    · exact (ih.cons b).trans (.swap a b rest)

/-- Sorting loses nothing and adds nothing: by induction on what is left to be put in place. -/
theorem perm_sortWith {α : Type} (before : α → α → Bool) (l : List α) :
    (sortWith before l).Perm l := by
  have general : ∀ (l sorted : List α),
      (l.foldl (fun sorted a => insertBy before a sorted) sorted).Perm (l ++ sorted) := by
    intro l
    induction l with
    | nil => exact fun sorted => .refl sorted
    | cons a rest ih =>
      intro sorted
      rw [List.foldl_cons]
      exact ((ih _).trans ((perm_insertBy before a sorted).append_left rest)).trans
        List.perm_middle
  simpa [sortWith] using general l []

theorem perm_sortBy {α κ : Type} [LT κ] [DecidableRel (α := κ) (· < ·)] (key : α → κ) (l : List α) :
    (sortBy key l).Perm l :=
  perm_sortWith _ l

theorem mem_sortBy {α κ : Type} [LT κ] [DecidableRel (α := κ) (· < ·)] {key : α → κ} {x : α}
    {l : List α} : x ∈ sortBy key l ↔ x ∈ l :=
  (perm_sortBy key l).mem_iff

section Order

variable {α : Type} {before : α → α → Bool}
  (asymm : ∀ a b, before a b = true → before b a = false)
  (trans : ∀ a b c, before b a = false → before c b = false → before c a = false)
include asymm trans

/-- An element is put where no later one is before it, nor it before an earlier one. -/
theorem pairwise_insertBy {l : List α} (h : l.Pairwise fun a b => before b a = false) (a : α) :
    (insertBy before a l).Pairwise fun a b => before b a = false := by
  induction l with
  | nil => exact List.pairwise_singleton _ a
  | cons b rest ih =>
    obtain ⟨first, others⟩ := List.pairwise_cons.1 h
    rw [insertBy]
    split
    · rename_i less
      refine List.pairwise_cons.2 ⟨fun c hc => ?_, h⟩
      rcases List.mem_cons.1 hc with rfl | hc
      · exact asymm _ _ less
      · exact trans _ _ _ (asymm _ _ less) (first c hc)
    · rename_i notLess
      refine List.pairwise_cons.2 ⟨fun c hc => ?_, ih others⟩
      rcases List.mem_cons.1 ((perm_insertBy before a rest).mem_iff.1 hc) with rfl | hc
      · exact Bool.eq_false_iff.2 notLess
      · exact first c hc

theorem pairwise_sortWith (l : List α) :
    (sortWith before l).Pairwise fun a b => before b a = false := by
  have general : ∀ (l sorted : List α), (sorted.Pairwise fun a b => before b a = false) →
      (l.foldl (fun sorted a => insertBy before a sorted) sorted).Pairwise
        fun a b => before b a = false := by
    intro l
    induction l with
    | nil => exact fun _ h => h
    | cons a rest ih => exact fun sorted h => ih _ (pairwise_insertBy asymm trans h a)
  exact general l [] .nil

end Order

/-- **What is sorted by texts is in their order.** -/
theorem pairwise_sortBy {α : Type} (key : α → String) (l : List α) :
    (sortBy key l).Pairwise fun a b => key a ≤ key b := by
  have asymm : ∀ a b, decide (key a < key b) = true → decide (key b < key a) = false :=
    fun _ _ less => decide_eq_false (String.lt_asymm (of_decide_eq_true less))
  have trans : ∀ a b c, decide (key b < key a) = false → decide (key c < key b) = false →
      decide (key c < key a) = false := fun _ _ _ first second =>
    decide_eq_false (String.not_lt.2 (String.le_trans
      (String.not_lt.1 (of_decide_eq_false first)) (String.not_lt.1 (of_decide_eq_false second))))
  exact (pairwise_sortWith asymm trans l).imp fun h => String.not_lt.1 (of_decide_eq_false h)

end SchemaPages
