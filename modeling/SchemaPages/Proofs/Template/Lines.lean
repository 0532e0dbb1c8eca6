import SchemaPages.Template.Builtin
/-!
# Lines of tables

A line of a table is made of the texts of its cells, with bars between them. How many cells a reader
finds in the line depends on the bars in these texts, and whether it is one line on their line breaks:
a line feed ends a line, and so does a carriage return.

* `rowLine`, `headLines`: lines, and the head of a table;
* `bars`, `cellCount`, `cellCount_rowLine`: the cells that a reader finds;
* `IsLineBreak`, `lineBreak_mem_rowLine_iff`: what ends a line, and where a line has that from;
* `BreaksFrom`: texts that have a line break only from some others.
-/

namespace SchemaPages

/-- The characters of joined texts are from these texts or from the separator. -/
theorem Text.mem_join {sep : String} {c : Char} {texts : List String}
    (h : c ∈ (Text.join sep texts).toList) : c ∈ sep.toList ∨ ∃ s ∈ texts, c ∈ s.toList := by
  fun_induction Text.join sep texts with
  | case1 => cases h
  | case2 s => exact Or.inr ⟨s, List.mem_singleton_self s, h⟩
  | case3 s rest _ ih =>
      rw [String.toList_append, String.toList_append, List.mem_append, List.mem_append] at h
      rcases h with (first | between) | later
      · exact Or.inr ⟨s, List.mem_cons_self, first⟩
      · exact Or.inl between
      · rcases ih later with between | ⟨t, ht, hc⟩
        · exact Or.inl between
        · exact Or.inr ⟨t, List.mem_cons_of_mem _ ht, hc⟩

theorem Text.mem_join_of_mem {sep s : String} {c : Char} {texts : List String} (hs : s ∈ texts)
    (hc : c ∈ s.toList) : c ∈ (Text.join sep texts).toList := by
  fun_induction Text.join sep texts with
  | case1 => cases hs
  | case2 t =>
      rw [List.mem_singleton] at hs
      exact hs ▸ hc
  | case3 t rest _ ih =>
      rw [String.toList_append, List.mem_append]
      rcases List.mem_cons.mp hs with rfl | later
      · exact Or.inl (String.toList_append ▸ List.mem_append_left _ hc)
      · exact Or.inr (ih later)

namespace Template

/-! ## 1. Lines -/

/-- The line of a row: its cells between bars, with a blank on either side. -/
def rowLine (cells : List String) : String := "| " ++ Text.join " | " cells ++ " |"

/-- The head of a table with these titles. -/
def headLines (titles : List String) : String :=
  rowLine titles ++ "\n" ++ ruleOf titles.length ++ "\n"

/-- How many bars separate cells. One behind a backslash does not, unless the backslash is behind one
    itself. -/
def barsFrom (escaped : Bool) : List Char → Nat
  | [] => 0
  | c :: rest =>
    if escaped then barsFrom false rest
    else if c = '\\' then barsFrom true rest
    else if c = '|' then barsFrom false rest + 1
    else barsFrom false rest

/-- How many bars of a text separate cells. -/
def bars (s : String) : Nat := barsFrom false s.toList

/-- How many bars of the texts of cells separate cells. -/
def barsIn : List String → Nat
  | [] => 0
  | cell :: cells => bars cell + barsIn cells

/-- How many cells a reader finds in a line that starts and ends with a bar. -/
def cellCount (line : String) : Nat := bars line - 1

section Lines

/-- A blank ends what is behind a backslash, so no text reaches over it. -/
theorem barsFrom_append_blank (escaped : Bool) (cs rest : List Char) :
    barsFrom escaped (cs ++ ' ' :: rest) = barsFrom escaped cs + barsFrom false rest := by
  induction cs generalizing escaped with
  | nil => cases escaped <;> simp [barsFrom]
  | cons c cs ih =>
      simp only [List.cons_append, barsFrom, ih]
      split
      · rfl
      · split
        · rfl
        · split
          · omega
          · rfl

/-- The cells of a line, up to the bar at its end. -/
theorem barsFrom_join {cells : List String} (h : cells ≠ []) :
    barsFrom false ((Text.join " | " cells).toList ++ [' ', '|']) =
      cells.length + barsIn cells := by
  fun_induction Text.join " | " cells with
  | case1 => exact absurd rfl h
  | case2 s =>
      rw [barsFrom_append_blank]
      simp [barsFrom, barsIn, bars, Nat.add_comm]
  | case3 s rest nonempty ih =>
      have later := ih (nonempty ·)
      have split : (s ++ " | " ++ Text.join " | " rest).toList ++ [' ', '|'] =
          s.toList ++ ' ' :: '|' :: ' ' :: ((Text.join " | " rest).toList ++ [' ', '|']) := by
        simp
      have bar (cs : List Char) : barsFrom false ('|' :: ' ' :: cs) = barsFrom false cs + 1 := by
        simp [barsFrom]
      rw [split, barsFrom_append_blank, bar, later, List.length_cons, barsIn, bars]
      omega

/-- **How many cells a reader finds in a line**: its own, and one for each bar in their texts. -/
theorem cellCount_rowLine {cells : List String} (h : cells ≠ []) :
    cellCount (rowLine cells) = cells.length + barsIn cells := by
  have split : (rowLine cells).toList =
      '|' :: ' ' :: ((Text.join " | " cells).toList ++ [' ', '|']) := by
    simp [rowLine]
  have all : bars (rowLine cells) = cells.length + barsIn cells + 1 := by
    rw [← barsFrom_join h, bars, split]
    simp [barsFrom]
  rw [cellCount, all, Nat.add_sub_cancel]

/-- **What ends a line**: a line feed or a carriage return. -/
def IsLineBreak (c : Char) : Prop := c = '\n' ∨ c = '\r'

/-- **A line goes over as many lines as its cells do**: it has their line breaks and no other. -/
theorem lineBreak_mem_rowLine_iff {c : Char} (hc : IsLineBreak c) {cells : List String} :
    c ∈ (rowLine cells).toList ↔ ∃ cell ∈ cells, c ∈ cell.toList := by
  have bars : c ∉ "| ".toList ∧ c ∉ " | ".toList ∧ c ∉ " |".toList := by
    rcases hc with rfl | rfl <;> decide
  unfold rowLine
  constructor
  · intro h
    rw [String.toList_append, String.toList_append, List.mem_append, List.mem_append] at h
    rcases h with (start | inner) | stop
    · exact absurd start bars.1
    · exact (Text.mem_join inner).resolve_left bars.2.1
    · exact absurd stop bars.2.2
  · rintro ⟨cell, hcell, has⟩
    rw [String.toList_append, String.toList_append, List.mem_append, List.mem_append]
    exact Or.inl (Or.inr (Text.mem_join_of_mem hcell has))

end Lines

/-! ## 2. Where line breaks are from -/

/-- **A text has a character only from some texts**: from one of them that it shows. -/
def BreaksFrom (c : Char) (raw : List String) (text : String) : Prop :=
  c ∈ text.toList → ∃ x ∈ raw, c ∈ x.toList ∧ x.toList <:+: text.toList

section Breaks

variable {c : Char} {raw texts : List String} {s t sep : String}

theorem breaksFrom_of_not_mem (h : c ∉ s.toList) : BreaksFrom c raw s := fun has => absurd has h

theorem breaksFrom_of_mem (h : s ∈ raw) : BreaksFrom c raw s := fun has =>
  ⟨s, h, has, List.infix_rfl⟩

theorem breaksFrom_append (hs : BreaksFrom c raw s) (ht : BreaksFrom c raw t) :
    BreaksFrom c raw (s ++ t) := by
  intro has
  rw [String.toList_append] at has ⊢
  rcases List.mem_append.mp has with has | has
  · obtain ⟨x, hx, within, inside⟩ := hs has
    exact ⟨x, hx, within, inside.trans (List.prefix_append _ _).isInfix⟩
  · obtain ⟨x, hx, within, inside⟩ := ht has
    exact ⟨x, hx, within, inside.trans (List.suffix_append _ _).isInfix⟩

theorem breaksFrom_join (hsep : c ∉ sep.toList) (h : ∀ s ∈ texts, BreaksFrom c raw s) :
    BreaksFrom c raw (Text.join sep texts) := by
  fun_induction Text.join sep texts with
  | case1 => exact breaksFrom_of_not_mem List.not_mem_nil
  | case2 s => exact h s (List.mem_singleton_self s)
  | case3 s rest _ ih =>
      exact breaksFrom_append
        (breaksFrom_append (h s List.mem_cons_self) (breaksFrom_of_not_mem hsep))
        (ih fun x hx => h x (List.mem_cons_of_mem _ hx))

theorem breaksFrom_replicate (n : Nat) (h : n ≠ 0 → BreaksFrom c raw s) :
    BreaksFrom c raw (String.join (List.replicate n s)) := by
  induction n with
  | zero => exact breaksFrom_of_not_mem List.not_mem_nil
  | succ n ih =>
      rw [List.replicate_succ, String.join_cons]
      have once := h (Nat.succ_ne_zero n)
      exact breaksFrom_append once (ih fun _ => once)

end Breaks

end Template

end SchemaPages
