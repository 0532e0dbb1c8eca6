import SchemaPages.Proofs.Site.TableRows
/-!
# Tables of pages

The tables of the built-in templates have a cell for each title in their heads, and no title has a
bar. Nothing escapes the bars of what is in the cells, so a row may have more cells than its head. It
stays on one line as far as the texts do that it shows as they are, and as far as descriptions have no
carriage returns.

* `WellMade`, `wellMade_builtin`: the tables of the built-in templates;
* `RowFits`, `rows_fit`: what becomes of the rows of every table on every page;
* `Site.ShowsRow`, `Site.not_rows_kept`: rows with more cells than their heads, and rows over two lines.
-/

namespace SchemaPages

open Template

/-! ## 1. Tables of the built-in templates -/

/-- **A table is well made**: its rows have a cell for each of its titles, no title has a bar, and the
    rows have line breaks from nothing but the texts that may bring them. -/
structure WellMade (k : TemplateKind) (titles : List String) (cells : List (List Part))
    (t : TableLoop) : Prop where
  top : t.depth = 0
  head : t.head = headLines titles
  made : cells? t.row = some cells
  width : cells.length = titles.length
  plain : barsIn titles = 0
  breaks : RowsBreak k t.name t.way cells

/-- A table is well made with some titles and cells. -/
abbrev IsWellMade (k : TemplateKind) (t : TableLoop) : Prop :=
  ∃ titles cells, WellMade k titles cells t

/-- The table of elements of a kind. -/
def listingLoop (kind field : String) (before : List Part) : TableLoop where
  head := "| " ++ kind ++ " | Description |" ++ "\n" ++ ruleOf 2 ++ "\n"
  name := "row"
  way := page field
  row := before ++ [plain ["row", "link"], .text " | ", cell ["row", "description"]]
    ++ [.text " |\n"]
  depth := 0

/-- The kinds that there are tables of elements for, as the heads of the tables have them. -/
def listedKinds : List String := ["Class", "Slot", "Enumeration", "Type", "Subset"]

theorem listedKinds_plain : ∀ kind ∈ listedKinds, bars kind = 0 := by decide +kernel

/-- Tables of elements are well made, whatever kind they are for. -/
theorem wellMade_listingLoop {k : TemplateKind} {kind field : String} {before : List Part}
    (hk : k ∈ listingKinds) (hf : field ∈ listedFields) (listed : kind ∈ listedKinds)
    (made : cells? (listingLoop kind field before).row = some (listingCells before))
    (hb : ∀ (c : Char) (short : Bool) (names : Names) (raw : List String), IsLineBreak c →
      partsBreakFrom c short names raw before) :
    IsWellMade k (listingLoop kind field before) := by
  refine ⟨[kind, "Description"], _, ⟨rfl, ?_, made, rfl, ?_, rowsBreak_listing hk hf hb⟩⟩
  · rw [← String.toList_inj]
    simp [listingLoop, headLines, rowLine, Text.join]
  · have description : bars "Description" = 0 := by decide +kernel
    simp [barsIn, listedKinds_plain kind listed, description]

/-- What shows how deep a class lies in the index. -/
def indent : List Part := [.repeated ["row", "depth"] [.text "&nbsp;&nbsp;&nbsp;&nbsp;"]]

theorem breaksFrom_indent (c : Char) (short : Bool) (names : Names) (raw : List String)
    (hc : IsLineBreak c) : partsBreakFrom c short names raw indent := by
  have blank : partsBreakFrom c short names raw [.text "&nbsp;&nbsp;&nbsp;&nbsp;"] := by
    rcases hc with rfl | rfl <;> simp
  rw [indent, partsBreakFrom_cons_iff, Part.BreaksFrom]
  exact ⟨blank, partsBreakFrom_nil⟩

theorem tablesIn_index : tablesIn indexTemplate =
    [listingLoop "Class" "classes" indent, listingLoop "Slot" "slots" [],
     listingLoop "Enumeration" "enums" [], listingLoop "Type" "types" [],
     listingLoop "Subset" "subsets" []] := rfl

theorem tablesIn_schema : tablesIn schemaTemplate =
    [listingLoop "Class" "classes" [], listingLoop "Slot" "slots" [],
     listingLoop "Enumeration" "enums" [], listingLoop "Type" "types" []] := rfl

theorem tablesIn_subset : tablesIn subsetTemplate =
    [listingLoop "Class" "classes" [], listingLoop "Slot" "slots" [],
     listingLoop "Enumeration" "enums" [], listingLoop "Type" "types" []] := rfl

theorem wellMade_class : ∀ t ∈ tablesIn classTemplate, IsWellMade .cls t :=
  List.forall_mem_cons.mpr
    ⟨⟨["Name", "Cardinality and Range", "Description", "Inheritance"], slotCells,
        rfl, rfl, rfl, rfl, by decide +kernel, rowsBreak_slots⟩,
      List.forall_mem_cons.mpr
        ⟨⟨["used by", "used in", "type", "used"], classUsageCells,
            rfl, rfl, rfl, rfl, by decide +kernel, rowsBreak_classUsages⟩,
          List.forall_mem_singleton.mpr
            ⟨["Rule Applied", "Preconditions", "Postconditions", "Elseconditions"], ruleCells,
              rfl, rfl, rfl, rfl, by decide +kernel, rowsBreak_rules⟩⟩⟩

theorem wellMade_slot : ∀ t ∈ tablesIn slotTemplate, IsWellMade .slot t :=
  List.forall_mem_singleton.mpr
    ⟨["Name", "Description", "Modifies Slot"], applicableCells,
      rfl, rfl, rfl, rfl, by decide +kernel, rowsBreak_applicable⟩

theorem wellMade_enum : ∀ t ∈ tablesIn enumTemplate, IsWellMade .enum t :=
  List.forall_mem_cons.mpr
    ⟨⟨["Value", "Meaning", "Description"], valueCells,
        rfl, rfl, rfl, rfl, by decide +kernel, rowsBreak_values⟩,
      List.forall_mem_singleton.mpr
        ⟨["Name", "Used by"], enumUsageCells,
          rfl, rfl, rfl, rfl, by decide +kernel, rowsBreak_enumUsages⟩⟩

/-- Tables of elements are well made on the pages of kinds that have them. -/
theorem wellMade_of_listings {k : TemplateKind} (hk : k ∈ listingKinds) {t : TableLoop}
    (h : t ∈ listingLoop "Class" "classes" indent ::
      [listingLoop "Class" "classes" [], listingLoop "Slot" "slots" [],
       listingLoop "Enumeration" "enums" [], listingLoop "Type" "types" [],
       listingLoop "Subset" "subsets" []]) : IsWellMade k t := by
  have nothing (c : Char) (short : Bool) (names : Names) (raw : List String) (_ : IsLineBreak c) :
      partsBreakFrom c short names raw [] := partsBreakFrom_nil
  simp only [List.mem_cons, List.not_mem_nil, or_false] at h
  rcases h with rfl | rfl | rfl | rfl | rfl | rfl
  · exact wellMade_listingLoop hk (by decide) (by decide) rfl breaksFrom_indent
  all_goals exact wellMade_listingLoop hk (by decide) (by decide) rfl nothing

/-- **All tables of the built-in templates are well made.** -/
theorem wellMade_builtin (k : TemplateKind) {t : TableLoop} (h : t ∈ tablesIn k.builtin) :
    IsWellMade k t := by
  cases k with
  | index =>
      rw [TemplateKind.builtin, tablesIn_index] at h
      exact wellMade_of_listings (by decide) (by grind)
  | schema =>
      rw [TemplateKind.builtin, tablesIn_schema] at h
      exact wellMade_of_listings (by decide) (by grind)
  | cls => exact wellMade_class t h
  | slot => exact wellMade_slot t h
  | enum => exact wellMade_enum t h
  | type => cases h
  | subset =>
      rw [TemplateKind.builtin, tablesIn_subset] at h
      exact wellMade_of_listings (by decide) (by grind)

/-! ## 2. Rows -/

/-- **What becomes of a row** below a head with some titles, when some texts may bring a line break into
    rows. -/
structure RowFits (sources : Char → List String) (titles row : List String) : Prop where
  /-- It is made of a cell for each title. -/
  width : row.length = titles.length
  /-- It goes over more than one line only where a cell shows such a text that does. -/
  oneLine : ∀ c ∈ (rowLine row).toList, IsLineBreak c →
    ∃ x ∈ sources c, c ∈ x.toList ∧ ∃ cell ∈ row, x.toList <:+: cell.toList
  /-- A reader finds one cell more in it than in the head for each bar in its texts. -/
  count : cellCount (rowLine row) = cellCount (rowLine titles) + barsIn row

theorem rowFits_of_cells {k : TemplateKind} {sources : Char → List String}
    {titles row : List String} {cells : List (List Part)} {t : TableLoop}
    (made : WellMade k titles cells t) (width : row.length = cells.length)
    (breaks : ∀ c, IsLineBreak c → ∀ cell ∈ row, BreaksFrom c (sources c) cell) :
    RowFits sources titles row := by
  have same : row.length = titles.length := width.trans made.width
  have pos : 0 < cells.length := List.length_pos_of_ne_nil (cells_ne_nil made.made)
  have row_ne : row ≠ [] := List.ne_nil_of_length_pos (width ▸ pos)
  have titles_ne : titles ≠ [] := List.ne_nil_of_length_pos (made.width ▸ pos)
  refine ⟨same, fun c has hc => ?_, ?_⟩
  · obtain ⟨cell, hcell, there⟩ := (lineBreak_mem_rowLine_iff hc).mp has
    obtain ⟨x, hx, within, inside⟩ := breaks c hc cell hcell there
    exact ⟨x, hx, within, cell, hcell, inside⟩
  · rw [cellCount_rowLine row_ne, cellCount_rowLine titles_ne, made.plain, same, Nat.add_zero]

namespace Site

section Rows

variable {s : Site} {fs : FileSystem} {t : TemplateSet} {d : Document} {p : Page} {text : String}

/-- **A document has its built-in template**: none of one's own, and the built-in one. -/
structure UsesBuiltin (t : TemplateSet) (d : Document) : Prop where
  other : t.own.lookup (d.template.fileName t.format) = none
  builtin : t.builtin.lookup (d.template.fileName t.format) = some d.template.builtin

/-- With the built-in template a document is what the template renders. -/
theorem render_of_documentText (built : s.page? fs d.subject = .ok (some p))
    (uses : UsesBuiltin t d) (h : s.documentText fs t d = .ok text) :
    Template.render t.short (s.templateNames (some p)) d.template.builtin = .ok text := by
  unfold documentText at h
  rw [built] at h
  cases TemplateSet.makes_of_render h with
  | own found _ => cases uses.other.symm.trans found
  | builtin _ found made =>
      cases uses.builtin.symm.trans found
      exact made

/-- **Rows of tables.** Every table that a page with a built-in template shows stands in its text, with
    a head of some titles and a line for each row. Whatever conditions of rules there are, a row goes
    over more than one line only where it shows a link, the name of a class, the title of a rule or a
    permissible value that does, or a description with a carriage return. It has a cell for each
    title, and a reader finds another one for each bar in its texts. -/
theorem rows_fit (hd : d ∈ s.plan.documents) (built : s.page? fs d.subject = .ok (some p))
    (uses : UsesBuiltin t d) (rendered : s.documentText fs t d = .ok text) {names : Names}
    {table : TableLoop}
    (drawn : Draws (s.templateNames (some p)) d.template.builtin names table) :
    ∃ titles rows before after, table.head = headLines titles ∧
      table.rows t.short names = .ok rows ∧ text = before ++ table.textOf rows ++ after ∧
      ∀ row ∈ rows, RowFits (p.breakTexts t.short s.config.format) titles row := by
  obtain ⟨mem, top⟩ := mem_tablesIn_of_draws drawn
  obtain ⟨titles, cells, made⟩ := wellMade_builtin d.template mem
  obtain ⟨rows, before, after, filled, place⟩ := text_of_draws drawn
    (by rw [made.made]; rfl) (render_of_documentText built uses rendered)
  refine ⟨titles, rows, before, after, made.head, filled, place, fun row hr => ?_⟩
  cases top made.top
  have parts : table.cells = cells := by rw [TableLoop.cells, made.made]; rfl
  obtain ⟨_, same, kind⟩ := template_of_planned hd built
  cases same
  obtain ⟨items, there, each⟩ := exists_of_bind_ok filled
  obtain ⟨v, hv, texts⟩ := exists_of_mapM_ok each hr
  rw [parts] at texts
  refine rowFits_of_cells made (length_of_mapM_ok texts) fun c hc x hx => ?_
  obtain ⟨cell, hcell, inCell⟩ := exists_of_mapM_ok texts hx
  exact breaksFrom_render cell x
    (made.breaks s fs d.subject p t.short items v c hc built kind there hv cell hcell) inCell

end Rows

/-! ## 3. Rows that pages show -/

/-- The built-in templates, as a site without any of its own loads them. -/
def builtinTemplates (s : Site) : TemplateSet :=
  builtinSet s.config.shortDescriptions s.plan.templateKinds

/-- The planned documents of a site without templates of its own have their built-in ones. -/
theorem usesBuiltin_of_planned {s : Site} {d : Document} (hd : d ∈ s.plan.documents) :
    UsesBuiltin s.builtinTemplates d where
  other := rfl
  builtin := TemplateSet.lookup_builtin (mem_templateKinds hd)

/-- **A page shows a row** below a head with some titles, with the built-in templates. -/
def ShowsRow (s : Site) (d : Document) (titles row : List String) : Prop :=
  d ∈ s.plan.documents ∧ ∃ (text before after : String) (rows : List (List String)),
    s.documentText {} s.builtinTemplates d = .ok text ∧ row ∈ rows ∧
      text = before ++
        (headLines titles ++ String.join (rows.map fun row => rowLine row ++ "\n")) ++ after

theorem showsRow_of_draws {s : Site} {d : Document} {p : Page} {names : Names} {table : TableLoop}
    {titles row : List String} {rows : List (List String)} (hd : d ∈ s.plan.documents)
    (hx : s.config.exampleDirectory = none) (built : s.page? {} d.subject = .ok (some p))
    (drawn : Draws (s.templateNames (some p)) d.template.builtin names table)
    (made : (cells? table.row).isSome) (head : table.head = headLines titles)
    (shown : table.rows s.config.shortDescriptions names = .ok rows) (hr : row ∈ rows) :
    s.ShowsRow d titles row := by
  obtain ⟨text, rendered⟩ := documentText_ok hx s.config.shortDescriptions hd {}
  obtain ⟨rows', before, after, filled, place⟩ := text_of_draws drawn made
    (render_of_documentText built (usesBuiltin_of_planned hd) rendered)
  cases Except.ok.inj (filled.symm.trans shown)
  exact ⟨hd, text, before, after, rows, rendered, hr, by rw [place, TableLoop.textOf, head]⟩

/-- The table of classes in the index. -/
def classLoop : TableLoop := listingLoop "Class" "classes" indent

/-- What is drawn behind some parts is drawn. -/
theorem draws_of_drop {names inner : Names} {parts : List Part} {t : TableLoop} (n : Nat)
    (h : Draws names (parts.drop n) inner t) : Draws names parts inner t := by
  induction n generalizing parts with
  | zero => exact h
  | succ n ih =>
      cases parts with
      | nil => exact h
      | cons p rest => exact .later (ih h)

/-- Every index shows a table of classes. -/
theorem draws_classLoop (names : Names) : Draws names indexTemplate names classLoop :=
  draws_of_drop 14 (.here rfl)

/-- A site with a class. -/
def classSite (c : Class) : Site where
  view := View.ofSchemas { id := "p", name := "p", classes := [c] } []
  config := { directory := some "out" }

/-- A site with a described class. -/
def describedSite (description : String) (short : Bool) : Site :=
  { classSite { name := "A", description := some description } with
    config := { directory := some "out", shortDescriptions := short } }

/-- A description on two lines that is not shortened: the line feed goes, and the carriage return
    before it stays and ends the line of the row. -/
theorem rows_fit_twoLines :
    ∃ text, (describedSite "born\r\ndied" false).documentText {}
        (describedSite "born\r\ndied" false).builtinTemplates
        (describedSite "born\r\ndied" false).indexDocument = .ok text ∧
      ∃ titles rows before after, classLoop.head = headLines titles ∧
        text = before ++ classLoop.textOf rows ++ after ∧
        rows = [["[A](A.md)", "born\r<br>died"]] ∧
        ∀ row ∈ rows, '\r' ∈ (rowLine row).toList ∧
          RowFits ((Page.index (describedSite "born\r\ndied" false).indexPage).breakTexts false .markdown)
            titles row := by
  have planned : (describedSite "born\r\ndied" false).indexDocument ∈
    (describedSite "born\r\ndied" false).plan.documents := List.mem_cons_self
  obtain ⟨text, made⟩ := documentText_ok rfl false planned {}
  obtain ⟨titles, rows, before, after, head, filled, place, fit⟩ :=
    rows_fit planned rfl (usesBuiltin_of_planned planned) made (draws_classLoop _)
  have shown : classLoop.rows false ((describedSite "born\r\ndied" false).templateNames
      (some (.index (describedSite "born\r\ndied" false).indexPage))) =
    .ok [["[A](A.md)", "born\r<br>died"]] := rfl
  have same : rows = [["[A](A.md)", "born\r<br>died"]] := Except.ok.inj (filled.symm.trans shown)
  refine ⟨text, made, titles, rows, before, after, head, place, same, fun row hr => ⟨?_, fit row hr⟩⟩
  rw [same, List.mem_singleton] at hr
  subst hr
  decide +kernel

/-- A table that is there if a value is. -/
theorem draws_ifTrue {names inner : Names} {way : Way} {parts rest : List Part} {t : TableLoop}
    (h : holds names way = true) (drawn : Draws names parts inner t) :
    Draws names (ifTrue way parts :: rest) inner t := by
  refine .branch ?_
  rw [if_pos (by rw [List.any_cons, h, Bool.true_or])]
  exact drawn

/-- A page shows a row that goes over more than one line. -/
def ShowsBrokenRow (s : Site) (d : Document) (titles row : List String) : Prop :=
  s.ShowsRow d titles row ∧ ∃ c ∈ (rowLine row).toList, IsLineBreak c

/-- A class with a rule whose title has two lines. -/
def ruledClass : Class := { name := "A", rules := [{ title := some "first\nsecond" }] }

/-- A class that leads to itself, and whose URI ends in two lines. -/
def uriClass : Class :=
  { name := "A", uri := some "p:a\nb", attributes := [{ name := "a", range := some "A" }] }

/-- The class as it is called by its URI. -/
def uriSite : Site :=
  { classSite uriClass with config := { directory := some "out", classUris := true } }

/-- The row of the class in the table of what leads to it. -/
theorem showsRow_usage :
    uriSite.ShowsRow (uriSite.elementDocument (.cls uriClass)) ["used by", "used in", "type", "used"]
      ["[A](a\nb.md)", "[a](a.md)", "range", "a\nb"] := by
  have ancestors : uriSite.view.classAncestors "A" true true = ["A"] := by
    have orphan : uriSite.view.classParents "A" true true = [] := rfl
    simp only [View.classAncestors, View.ancestorsBy, orphan, Walk.preorder]
    rfl
  have induced : uriSite.view.inducedSlot "a" (some "A") =
      some { name := "a", range := some "A", domainOf := ["A"] } := by
    have orphan : uriSite.view.slotParents "a" true = [] := by decide +kernel
    simp only [View.inducedSlot, ancestors, View.slotAncestors, View.ancestorsBy, orphan, Walk.preorder]
    decide +kernel
  have usages : uriSite.usages "A" = [⟨.page "A" "a\nb.md", .page "a" "a.md"⟩] := by
    have declared : uriSite.declaredSlots uriClass =
        [{ name := "a", range := some "A", domainOf := ["A"] }] := by
      show [("a" : String)].filterMap (fun n => uriSite.view.inducedSlot n (some "A")) = _
      rw [List.filterMap_cons, induced]
      rfl
    show ([uriClass].flatMap fun c => ((uriSite.declaredSlots c).filter _).map _) = _
    rw [List.flatMap_cons, declared]
    decide +kernel
  have there : find? (uriSite.templateNames (some (.cls (uriSite.classPage uriClass []))))
      (page "usages") = some (.arr ((uriSite.usages "A").map (UsageRow.toValue .markdown))) := rfl
  refine showsRow_of_draws (.tail _ (.tail _ (.head _))) rfl rfl
    (draws_of_drop 16 (draws_ifTrue ?_ (.later (.here rfl)))) rfl rfl ?_ (.head [])
  · rw [holds, there, usages]
    rfl
  · rw [TableLoop.rows, itemsAt, there, usages]
    rfl

/-- An enumeration with a value of two lines. -/
def brokenEnum : Enumeration := { name := "E", permissibleValues := [{ text := "p\nq" }] }

/-- A site with the enumeration. -/
def enumSite : Site where
  view := View.ofSchemas { id := "p", name := "p", enums := [brokenEnum] } []
  config := { directory := some "out" }

/-- **Rows do not stay rows.** A bar in a description is a bar of the table: a reader finds three cells
    in the row of the class, and two in the head. A carriage return in a description ends the line of
    the row, and so does a line feed in the title of a rule, a link, the name of a class or a
    permissible value. -/
theorem not_rows_kept :
    ((describedSite "alive | dead" true).ShowsRow (describedSite "alive | dead" true).indexDocument
        ["Class", "Description"] ["[A](A.md)", "alive | dead"] ∧
      cellCount (rowLine ["[A](A.md)", "alive | dead"]) = 3 ∧
      cellCount (rowLine ["Class", "Description"]) = 2) ∧
    (describedSite "born\rdied" true).ShowsBrokenRow (describedSite "born\rdied" true).indexDocument
      ["Class", "Description"] ["[A](A.md)", "born\rdied"] ∧
    (classSite ruledClass).ShowsBrokenRow ((classSite ruledClass).elementDocument (.cls ruledClass))
      ["Rule Applied", "Preconditions", "Postconditions", "Elseconditions"]
      ["first\nsecond", "", "", ""] ∧
    uriSite.ShowsBrokenRow uriSite.indexDocument ["Class", "Description"] ["[A](a\nb.md)", ""] ∧
    uriSite.ShowsBrokenRow (uriSite.elementDocument (.cls uriClass))
      ["used by", "used in", "type", "used"] ["[A](a\nb.md)", "[a](a.md)", "range", "a\nb"] ∧
    enumSite.ShowsBrokenRow (enumSite.elementDocument (.enum brokenEnum))
      ["Value", "Meaning", "Description"] ["p\nq", "None", ""] := by
  refine ⟨⟨?_, by decide +kernel, by decide +kernel⟩, ⟨?_, '\r', by decide +kernel, .inr rfl⟩,
    ⟨?_, '\n', by decide +kernel, .inl rfl⟩, ⟨?_, '\n', by decide +kernel, .inl rfl⟩,
    ⟨?_, '\n', by decide +kernel, .inl rfl⟩, ⟨?_, '\n', by decide +kernel, .inl rfl⟩⟩
  · exact showsRow_of_draws (.head _) rfl rfl (draws_classLoop _) rfl rfl rfl (.head _)
  · exact showsRow_of_draws (.head _) rfl rfl (draws_classLoop _) rfl rfl rfl (.head _)
  · exact showsRow_of_draws (.tail _ (.tail _ (.head _))) rfl rfl
      (draws_of_drop 17 (draws_ifTrue rfl (.later (.here rfl)))) rfl rfl rfl (.head _)
  · exact showsRow_of_draws (.head _) rfl rfl (draws_classLoop _) rfl rfl rfl (.head _)
  · exact showsRow_usage
  · exact showsRow_of_draws (.tail _ (.tail _ (.head _))) rfl rfl
      (draws_of_drop 8 (.here rfl)) rfl rfl rfl (.head _)

end Site

end SchemaPages
