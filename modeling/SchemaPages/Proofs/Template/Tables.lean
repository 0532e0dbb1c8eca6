import SchemaPages.Proofs.Data.Records
import SchemaPages.Proofs.Template.Lines
/-!
# Tables of templates

A template draws a table as a head and a loop that adds a line for each item. The tables of a template
can be listed from its parts alone; which of them a page shows depends on its values.

* `TableLoop`, `tablesIn`, `Draws`: the tables of a template, and those that a page shows;
* `cells?`, `exists_cells_of_render`: the cells of a row, and their texts in its line;
* `TableLoop.rows`, `text_of_draws`: where a table stands in the text of a page, and what its rows
  are.
-/

namespace SchemaPages.Template

/-! ## 1. Where tables are -/

/-- A table of a template: its head, and the loop over its rows. -/
structure TableLoop where
  head : String
  /-- The name of an item in the loop. -/
  name : String
  way : Way
  /-- What the loop adds for an item behind the first bar. -/
  row : List Part
  /-- In how many other loops the table stands. -/
  depth : Nat
  deriving Repr

/-- The table in one loop more. -/
def TableLoop.inside (t : TableLoop) : TableLoop := { t with depth := t.depth + 1 }

/-- The table that a part starts which more parts follow: a text, before a loop whose lines start with
    a bar. -/
def tableAt? : Part → List Part → Option TableLoop
  | .text head, .forEach name way (.text start :: row) :: _ =>
    if start = "| " then some ⟨head, name, way, row, 0⟩ else none
  | _, _ => none

mutual

/-- The tables within a part. -/
def Part.tables : Part → List TableLoop
  | .ifAny _ yes no => tablesIn yes ++ tablesIn no
  | .forEach _ _ parts => (tablesIn parts).map TableLoop.inside
  | .repeated _ parts => tablesIn parts
  | _ => []

/-- The tables of a template. -/
def tablesIn : List Part → List TableLoop
  | [] => []
  | p :: rest => (tableAt? p rest).toList ++ p.tables ++ tablesIn rest

end

/-- **Rendering draws a table**: it gets to the table, and has some names to fill it in with there. -/
inductive Draws : Names → List Part → Names → TableLoop → Prop where
  | here {names : Names} {p : Part} {rest : List Part} {t : TableLoop}
      (starts : tableAt? p rest = some t) : Draws names (p :: rest) names t
  | later {names inner : Names} {p : Part} {rest : List Part} {t : TableLoop}
      (h : Draws names rest inner t) : Draws names (p :: rest) inner t
  | branch {names inner : Names} {ways : List Way} {yes no rest : List Part} {t : TableLoop}
      (h : Draws names (if ways.any (holds names) then yes else no) inner t) :
      Draws names (.ifAny ways yes no :: rest) inner t
  | item {names inner : Names} {name : String} {way : Way} {parts rest : List Part} {t : TableLoop}
      {items : List Value} {v : Value} (there : itemsAt names way = .ok items) (hv : v ∈ items)
      (h : Draws ((name, v) :: names) parts inner t) :
      Draws names (.forEach name way parts :: rest) inner t.inside
  | again {names inner : Names} {way : Way} {parts rest : List Part} {t : TableLoop} {n : Nat}
      (there : countAt names way = .ok (n + 1)) (h : Draws names parts inner t) :
      Draws names (.repeated way parts :: rest) inner t

section Places

variable {names inner : Names} {parts : List Part} {t : TableLoop}

/-- **What is drawn is in the template**, and is filled in with the names of the page if it stands in
    no other loop. By induction on the way to it. -/
theorem mem_tablesIn_of_draws (h : Draws names parts inner t) :
    t ∈ tablesIn parts ∧ (t.depth = 0 → inner = names) := by
  induction h with
  | here starts =>
      refine ⟨?_, fun _ => rfl⟩
      rw [tablesIn, starts]
      exact List.mem_append_left _ (List.mem_append_left _ (List.mem_singleton_self _))
  | later _ ih => exact ⟨by rw [tablesIn]; exact List.mem_append_right _ ih.1, ih.2⟩
  | @branch names _ ways yes no rest t _ ih =>
      refine ⟨?_, ih.2⟩
      have there : t ∈ (Part.ifAny ways yes no).tables := by
        rw [Part.tables, List.mem_append]
        split at ih
        · exact Or.inl ih.1
        · exact Or.inr ih.1
      rw [tablesIn]
      exact List.mem_append_left _ (List.mem_append_right _ there)
  | item _ _ _ ih =>
      refine ⟨?_, fun top => absurd top (Nat.succ_ne_zero _)⟩
      rw [tablesIn, Part.tables]
      exact List.mem_append_left _ (List.mem_append_right _ (List.mem_map_of_mem ih.1))
  | again _ _ ih =>
      refine ⟨?_, ih.2⟩
      rw [tablesIn, Part.tables]
      exact List.mem_append_left _ (List.mem_append_right _ ih.1)

end Places

/-! ## 2. What a table looks like -/

/-- One part more at the start of the first cell. -/
def withFirst (p : Part) : List (List Part) → List (List Part)
  | [] => []
  | cell :: cells => (p :: cell) :: cells

/-- Whether a part is a certain text. -/
def Part.isText (s : String) : Part → Bool
  | .text t => t == s
  | _ => false

/-- The cells of a row: bars stand between them, and a bar and a line end behind the last. -/
def cells? : List Part → Option (List (List Part))
  | [] => none
  | p :: rest =>
    if p.isText " |\n" ∧ rest = [] then some [[]]
    else if p.isText " | " then (cells? rest).map ([] :: ·)
    else (cells? rest).map (withFirst p)

/-- The cells of a table's rows. -/
def TableLoop.cells (t : TableLoop) : List (List Part) := (cells? t.row).getD []

/-- The texts in the cells of each row. -/
def TableLoop.rows (t : TableLoop) (short : Bool) (names : Names) :
    Except RenderError (List (List String)) := do
  (← itemsAt names t.way).mapM fun v => t.cells.mapM (render short ((t.name, v) :: names))

/-- The text of a table: its head, and a line for each row. -/
def TableLoop.textOf (t : TableLoop) (rows : List (List String)) : String :=
  t.head ++ String.join (rows.map fun row => rowLine row ++ "\n")

section Rows

variable {short : Bool} {names inner : Names} {p : Part} {parts rest row : List Part} {t : TableLoop}
  {name : String} {way : Way} {text : String} {cells : List (List Part)}

theorem render_cons_ok_iff : render short names (p :: rest) = .ok text ↔
    ∃ a b, renderPart short names p = .ok a ∧ render short names rest = .ok b ∧ text = a ++ b := by
  rw [render]
  constructor
  · intro h
    obtain ⟨a, first, h⟩ := exists_of_bind_ok h
    obtain ⟨b, later, h⟩ := exists_of_bind_ok h
    exact ⟨a, b, first, later, (Except.ok.inj h).symm⟩
  · rintro ⟨a, b, first, later, rfl⟩
    rw [first, later]
    rfl

theorem render_forEach_ok (h : renderPart short names (.forEach name way parts) = .ok text) :
    ∃ items texts, itemsAt names way = .ok items ∧
      items.mapM (fun v => render short ((name, v) :: names) parts) = .ok texts ∧
      text = String.join texts := by
  rw [renderPart] at h
  obtain ⟨items, there, h⟩ := exists_of_bind_ok h
  obtain ⟨texts, each, h⟩ := exists_of_bind_ok h
  exact ⟨items, texts, there, each, (Except.ok.inj h).symm⟩

theorem render_ifAny (ways : List Way) (yes no : List Part) :
    renderPart short names (.ifAny ways yes no) =
      render short names (if ways.any (holds names) then yes else no) := by
  rw [renderPart]
  split <;> rfl

/-- Parts that are repeated have one text, if they are there at all. -/
theorem render_repeated_ok (h : renderPart short names (.repeated way parts) = .ok text) :
    ∃ n once, countAt names way = .ok n ∧ (n = 0 ∨ render short names parts = .ok once) ∧
      text = String.join (List.replicate n once) := by
  rw [renderPart] at h
  obtain ⟨n, there, h⟩ := exists_of_bind_ok h
  split at h
  · rename_i none
    exact ⟨n, "", there, Or.inl none, by rw [none]; exact (Except.ok.inj h).symm⟩
  · obtain ⟨once, made, h⟩ := exists_of_bind_ok h
    exact ⟨n, once, there, Or.inr made, (Except.ok.inj h).symm⟩

theorem eq_of_isText {s : String} (h : p.isText s = true) : p = .text s := by
  cases p with
  | text t => rw [eq_of_beq h]
  | _ => cases h

theorem cells_ne_nil (h : cells? row = some cells) : cells ≠ [] := by
  fun_induction cells? row generalizing cells with
  | case1 => cases h
  | case2 => cases h; exact List.cons_ne_nil _ _
  | case3 =>
      obtain ⟨_, _, rfl⟩ := Option.map_eq_some_iff.mp h
      exact List.cons_ne_nil _ _
  | case4 p rest _ _ ih =>
      obtain ⟨cells, found, rfl⟩ := Option.map_eq_some_iff.mp h
      cases cells with
      | nil => exact absurd rfl (ih found)
      | cons cell cells => exact List.cons_ne_nil _ _

theorem join_append_first (sep a x : String) (texts : List String) :
    Text.join sep ((a ++ x) :: texts) = a ++ Text.join sep (x :: texts) := by
  cases texts with
  | nil => rfl
  | cons y texts => simp [Text.join, String.append_assoc]

/-- **A row is its cells between bars**: by induction on its parts, each of which starts a cell, ends
    the row, or belongs to the cell of the next. -/
theorem exists_cells_of_render (hc : cells? row = some cells)
    (h : render short names row = .ok text) :
    ∃ texts, cells.mapM (render short names) = .ok texts ∧ text = Text.join " | " texts ++ " |\n" := by
  fun_induction cells? row generalizing cells text with
  | case1 => cases hc
  | case2 p rest last =>
      cases hc
      obtain ⟨a, b, first, later, rfl⟩ := render_cons_ok_iff.mp h
      rw [eq_of_isText last.1, renderPart] at first
      rw [last.2, render] at later
      cases first
      cases later
      exact ⟨[""], by rw [mapM_cons_ok_iff]; exact ⟨"", [], by rw [render], rfl, rfl⟩, rfl⟩
  | case3 p rest _ bar ih =>
      obtain ⟨cells, found, rfl⟩ := Option.map_eq_some_iff.mp hc
      obtain ⟨a, b, first, later, rfl⟩ := render_cons_ok_iff.mp h
      obtain ⟨texts, each, rfl⟩ := ih found later
      rw [eq_of_isText bar, renderPart] at first
      cases first
      refine ⟨"" :: texts, mapM_cons_ok_iff.mpr ⟨"", texts, by rw [render], each, rfl⟩, ?_⟩
      cases cells with
      | nil => exact absurd rfl (cells_ne_nil found)
      | cons cell cells =>
          obtain ⟨x, xs, _, _, rfl⟩ := mapM_cons_ok_iff.mp each
          show _ = "" ++ " | " ++ Text.join " | " (x :: xs) ++ " |\n"
          rw [String.empty_append, String.append_assoc]
  | case4 p rest _ _ ih =>
      obtain ⟨cells, found, rfl⟩ := Option.map_eq_some_iff.mp hc
      obtain ⟨a, b, first, later, rfl⟩ := render_cons_ok_iff.mp h
      obtain ⟨texts, each, rfl⟩ := ih found later
      cases cells with
      | nil => exact absurd rfl (cells_ne_nil found)
      | cons cell cells =>
          obtain ⟨x, xs, head, others, rfl⟩ := mapM_cons_ok_iff.mp each
          refine ⟨(a ++ x) :: xs, mapM_cons_ok_iff.mpr ⟨a ++ x, xs, ?_, others, rfl⟩, ?_⟩
          · exact render_cons_ok_iff.mpr ⟨a, x, first, head, rfl⟩
          · rw [join_append_first, String.append_assoc]

/-- What a loop over rows adds is a line for each item. -/
theorem exists_rows_of_render (made : (cells? t.row).isSome)
    (h : renderPart short names (.forEach t.name t.way (.text "| " :: t.row)) = .ok text) :
    ∃ rows, t.rows short names = .ok rows ∧
      text = String.join (rows.map fun row => rowLine row ++ "\n") := by
  obtain ⟨cells, found⟩ := Option.isSome_iff_exists.mp made
  obtain ⟨items, texts, there, each, rfl⟩ := render_forEach_ok h
  have line (v : Value) (x : String)
      (hx : render short ((t.name, v) :: names) (.text "| " :: t.row) = .ok x) :
      ∃ row, t.cells.mapM (render short ((t.name, v) :: names)) = .ok row ∧
        x = rowLine row ++ "\n" := by
    obtain ⟨a, b, first, later, rfl⟩ := render_cons_ok_iff.mp hx
    obtain ⟨row, filled, rfl⟩ := exists_cells_of_render found later
    rw [renderPart] at first
    cases first
    refine ⟨row, by rw [TableLoop.cells, found]; exact filled, ?_⟩
    simp [rowLine, String.append_assoc]
  obtain ⟨rows, filled, rfl⟩ := mapM_of_each line each
  refine ⟨rows, ?_, rfl⟩
  rw [TableLoop.rows, there]
  exact filled

theorem exists_forEach_of_tableAt (h : tableAt? p rest = some t) :
    ∃ others, p = .text t.head ∧ rest = .forEach t.name t.way (.text "| " :: t.row) :: others := by
  unfold tableAt? at h
  split at h
  · rename_i head name way start row others
    split at h
    · rename_i bar
      cases h
      exact ⟨others, rfl, by rw [bar]⟩
    · cases h
  · cases h

/-- **A table that is drawn stands in the text**, with a line for each row: by induction on the way to
    it, on which each part leaves its text where it is. -/
theorem text_of_draws (drawn : Draws names parts inner t) (made : (cells? t.row).isSome)
    (h : render short names parts = .ok text) :
    ∃ rows before after, t.rows short inner = .ok rows ∧
      text = before ++ t.textOf rows ++ after := by
  induction drawn generalizing text with
  | here starts =>
      obtain ⟨others, rfl, rfl⟩ := exists_forEach_of_tableAt starts
      obtain ⟨head, body, first, later, rfl⟩ := render_cons_ok_iff.mp h
      obtain ⟨lines, after, loop, _, rfl⟩ := render_cons_ok_iff.mp later
      obtain ⟨rows, filled, rfl⟩ := exists_rows_of_render made loop
      rw [renderPart] at first
      cases first
      exact ⟨rows, "", after, filled, by simp [TableLoop.textOf, String.append_assoc]⟩
  | later _ ih =>
      obtain ⟨a, b, _, later, rfl⟩ := render_cons_ok_iff.mp h
      obtain ⟨rows, before, after, filled, rfl⟩ := ih made later
      exact ⟨rows, a ++ before, after, filled, by simp [String.append_assoc]⟩
  | branch _ ih =>
      obtain ⟨a, b, first, _, rfl⟩ := render_cons_ok_iff.mp h
      rw [render_ifAny] at first
      obtain ⟨rows, before, after, filled, rfl⟩ := ih made first
      exact ⟨rows, before, after ++ b, filled, by simp [String.append_assoc]⟩
  | @item _ _ _ _ _ _ t _ _ there hv _ ih =>
      obtain ⟨a, b, first, _, rfl⟩ := render_cons_ok_iff.mp h
      obtain ⟨items, texts, found, each, rfl⟩ := render_forEach_ok first
      cases there.symm.trans found
      obtain ⟨earlier, x, others, rfl, drawn⟩ := exists_split_of_mapM_ok each hv
      obtain ⟨rows, before, after, filled, rfl⟩ := ih made drawn
      refine ⟨rows, String.join earlier ++ before, after ++ String.join others ++ b, filled, ?_⟩
      show _ = _ ++ t.textOf rows ++ _
      simp [String.join_append, String.append_assoc]
  | @again _ _ _ _ _ _ n there _ ih =>
      obtain ⟨a, b, first, _, rfl⟩ := render_cons_ok_iff.mp h
      obtain ⟨m, once, found, drawn, rfl⟩ := render_repeated_ok first
      cases there.symm.trans found
      obtain ⟨rows, before, after, filled, place⟩ := ih made (drawn.resolve_left (Nat.succ_ne_zero n))
      refine ⟨rows, before, after ++ String.join (List.replicate n once) ++ b, filled, ?_⟩
      simp only [List.replicate_succ, String.join_cons, place, String.append_assoc]

end Rows

end SchemaPages.Template
