import SchemaPages.Proofs.Template.Tables
import SchemaPages.Proofs.Text.Canonical
/-!
# Line breaks in templates

Where the text of a template has line breaks from. Descriptions in cells have no line feed, whether
they are shortened or not, but keep their carriage returns; what a template shows as it is brings its
own breaks.

* `cellText`, `lineFeed_not_mem_cellText`: descriptions in cells;
* `Part.BreaksFrom`, `CellsBreak`: parts and cells that have a line break only from some texts;
* `breaksFrom_render`: their texts do not have it from anywhere else.
-/

namespace SchemaPages.Template

/-! ## 1. Descriptions in cells -/

section Descriptions

theorem lineFeed_not_mem_before (cs : List Char) : '\n' ∉ before '\n' cs := fun h => by
  simpa using List.all_eq_true.mp List.all_takeWhile '\n' h

theorem lineFeed_not_mem_shorten (s : String) : '\n' ∉ (shorten s).toList := by
  have sentence : '\n' ∉ before '.' (before '\n' s.toList) := fun h =>
    lineFeed_not_mem_before s.toList ((List.takeWhile_prefix _).mem h)
  unfold shorten shortenChars
  rw [String.toList_ofList]
  dsimp only
  split
  · intro h
    rcases List.mem_append.mp h with cut | dots
    · exact sentence (List.mem_of_mem_take cut)
    · exact absurd dots (by decide)
  · exact sentence

theorem lineFeed_not_mem_webText (s : String) : '\n' ∉ (webText s).toList := by
  intro h
  rcases Text.mem_join h with mark | ⟨line, hl, feed⟩
  · exact absurd mark (by decide)
  · obtain ⟨cs, piece, rfl⟩ := List.mem_map.mp hl
    rw [String.toList_ofList] at feed
    simpa using Text.not_sep_of_mem_splitOn piece '\n' feed

/-- What a cell shows of a description. -/
def cellText (short : Bool) : String → String := if short then shorten else webText

/-- **A description in a cell has no line feed**, whether it is shortened or not. -/
theorem lineFeed_not_mem_cellText (short : Bool) (s : String) : '\n' ∉ (cellText short s).toList := by
  unfold cellText
  split
  · exact lineFeed_not_mem_shorten s
  · exact lineFeed_not_mem_webText s

theorem cellText_empty (short : Bool) : cellText short "" = "" := by cases short <;> rfl

/-- A description in a cell, or nothing where there is none. -/
theorem valueAt_cell {short : Bool} {names : Names} {way : Way} {description : Option String}
    (there : find? names way = some (.ofText? description)) :
    valueAt short names way [.cellText] = .ok ((description.map (cellText short)).getD "") := by
  have filtered (s : String) (v : Value) (taken : Filter.onText (cellText short) v = some (.str s)) :
      applyFilters short [.cellText] v = .ok (.str s) := by
    have applied : Filter.cellText.apply short v = some (.str s) := by
      rw [← taken, Filter.apply]
      rfl
    rw [applyFilters, applied]
    rfl
  unfold valueAt
  rw [there]
  dsimp only
  cases description with
  | none =>
      rw [Value.ofText?, filtered "" .null (by rw [Filter.onText, cellText_empty])]
      rfl
  | some s =>
      rw [Value.ofText?, filtered _ (.str s) rfl]
      rfl

end Descriptions

/-! ## 2. Parts -/

mutual

/-- **A part has a character only from some texts**: its own texts do not have it, and the values that
    it shows for these names have it from there. Loops are left out, as no cell has one. -/
def Part.BreaksFrom (c : Char) (short : Bool) (names : Names) (raw : List String) : Part → Prop
  | .text s => c ∉ s.toList
  | .value way filters =>
    ∀ text, valueAt short names way filters = .ok text → Template.BreaksFrom c raw text
  | .ifAny _ yes no => partsBreakFrom c short names raw yes ∧ partsBreakFrom c short names raw no
  | .forEach _ _ _ => False
  | .repeated _ parts => partsBreakFrom c short names raw parts

/-- All of some parts have a character only from some texts. -/
def partsBreakFrom (c : Char) (short : Bool) (names : Names) (raw : List String) :
    List Part → Prop
  | [] => True
  | p :: rest => p.BreaksFrom c short names raw ∧ partsBreakFrom c short names raw rest

end

/-- Cells have a character only from some texts. -/
def CellsBreak (c : Char) (short : Bool) (names : Names) (raw : List String)
    (cells : List (List Part)) : Prop :=
  ∀ cell ∈ cells, partsBreakFrom c short names raw cell

section PartBreaks

variable {c : Char} {short : Bool} {names : Names} {raw : List String} {way : Way}

@[simp] theorem cellsBreak_nil : CellsBreak c short names raw [] := List.forall_mem_nil _

@[simp] theorem cellsBreak_cons_iff {cell : List Part} {cells : List (List Part)} :
    CellsBreak c short names raw (cell :: cells) ↔
      partsBreakFrom c short names raw cell ∧ CellsBreak c short names raw cells := List.forall_mem_cons

@[simp] theorem partsBreakFrom_nil : partsBreakFrom c short names raw [] := by
  rw [partsBreakFrom]
  trivial

@[simp] theorem partsBreakFrom_cons_iff {p : Part} {rest : List Part} :
    partsBreakFrom c short names raw (p :: rest) ↔
      p.BreaksFrom c short names raw ∧ partsBreakFrom c short names raw rest := by
  rw [partsBreakFrom]

@[simp] theorem breaksFrom_text_iff {s : String} :
    (Part.text s).BreaksFrom c short names raw ↔ c ∉ s.toList := by
  rw [Part.BreaksFrom]

@[simp] theorem breaksFrom_ifAny_iff {ways : List Way} {yes no : List Part} :
    (Part.ifAny ways yes no).BreaksFrom c short names raw ↔
      partsBreakFrom c short names raw yes ∧ partsBreakFrom c short names raw no := by
  rw [Part.BreaksFrom]

mutual

theorem breaksFrom_renderPart : ∀ (p : Part) (text : String), p.BreaksFrom c short names raw →
    renderPart short names p = .ok text → BreaksFrom c raw text
  | .text s, text, feeds, h => by
      rw [renderPart] at h
      rw [Part.BreaksFrom] at feeds
      exact breaksFrom_of_not_mem (Except.ok.inj h ▸ feeds)
  | .value way filters, text, feeds, h => by
      rw [renderPart] at h
      rw [Part.BreaksFrom] at feeds
      exact feeds text h
  | .ifAny ways yes no, text, feeds, h => by
      rw [renderPart] at h
      rw [Part.BreaksFrom] at feeds
      split at h
      · exact breaksFrom_render yes text feeds.1 h
      · exact breaksFrom_render no text feeds.2 h
  | .forEach name way parts, text, feeds, h => by
      rw [Part.BreaksFrom] at feeds
      exact feeds.elim
  | .repeated way parts, text, feeds, h => by
      rw [Part.BreaksFrom] at feeds
      obtain ⟨n, once, _, made, rfl⟩ := render_repeated_ok h
      exact breaksFrom_replicate n fun some_left =>
        breaksFrom_render parts once feeds (made.resolve_left some_left)

/-- **Parts bring a character only from where each of them does.** -/
theorem breaksFrom_render : ∀ (parts : List Part) (text : String),
    partsBreakFrom c short names raw parts → render short names parts = .ok text → BreaksFrom c raw text
  | [], text, _, h => by
      rw [render] at h
      exact breaksFrom_of_not_mem (Except.ok.inj h ▸ List.not_mem_nil)
  | p :: rest, text, feeds, h => by
      rw [partsBreakFrom] at feeds
      obtain ⟨a, b, first, later, rfl⟩ := render_cons_ok_iff.mp h
      exact breaksFrom_append (breaksFrom_renderPart p a feeds.1 first)
        (breaksFrom_render rest b feeds.2 later)

end

/-- A part that shows a value as it is brings the characters of the value. -/
theorem breaksFrom_plain {v : Value} (there : find? names way = some v)
    (h : BreaksFrom c raw (showValue v)) : (plain way).BreaksFrom c short names raw := by
  rw [plain, Part.BreaksFrom]
  intro text shown
  unfold valueAt at shown
  rw [there] at shown
  exact Except.ok.inj shown ▸ h

/-- A description in a cell brings what is left of it there. -/
theorem breaksFrom_cell {description : Option String}
    (there : find? names way = some (.ofText? description))
    (h : ∀ s ∈ description, BreaksFrom c raw (cellText short s)) :
    (cell way).BreaksFrom c short names raw := by
  rw [cell, Part.BreaksFrom]
  intro text shown
  rw [valueAt_cell there] at shown
  cases description with
  | none => exact breaksFrom_of_not_mem (Except.ok.inj shown ▸ List.not_mem_nil)
  | some s => exact Except.ok.inj shown ▸ h s rfl

end PartBreaks

end SchemaPages.Template
