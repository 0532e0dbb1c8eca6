import SchemaPages.Proofs.Data.Compact
import SchemaPages.Proofs.Site.PageLinks
import SchemaPages.Proofs.Site.Rendering
import SchemaPages.Proofs.Template.LineBreaks
/-!
# Rows of the built-in tables

The cells of the built-in tables show links, names, titles and permissible values as they are, with
whatever line breaks these have. Descriptions lose their line feeds but not their carriage returns, and
the conditions of rules come as compact JSON, which has neither.

* `Page.rawTexts`: the texts that tables show as they are;
* `Page.breakTexts`: the texts that may bring a line break into a row;
* `cellsBreak_slot` and its kin: the cells for an item of each kind;
* `RowsBreak`, `rowsBreak_slots` and its kin: the rows of each table on the pages that have it.
-/

namespace SchemaPages

open Template

/-! ## 1. Texts as they are -/

/-- What tables show as it is besides links. -/
def Page.plainTexts : Page → List String
  | .cls p => p.header.name :: p.rules.map RuleRow.title
  | .enum p => p.permissibleValues.map PermissibleValueRow.text
  | _ => []

/-- **The texts of a page that tables show as they are**: its links, the name of a class, titles of
    rules and permissible values. -/
def Page.rawTexts (f : OutputFormat) (p : Page) : List String :=
  p.links.map (Link.render f) ++ p.plainTexts

/-- The descriptions in the tables of a page. -/
def Page.descriptions : Page → List String
  | .index p => (p.classes ++ p.slots ++ p.enums ++ p.types ++ p.subsets).filterMap (·.description)
  | .schema p => (p.classes ++ p.slots ++ p.enums ++ p.types).filterMap (·.description)
  | .cls p => p.slots.filterMap (·.description)
  | .slot p => p.applicableClasses.filterMap (·.description)
  | .enum p => p.permissibleValues.filterMap (·.description)
  | .type _ => []
  | .subset p => (p.classes ++ p.slots ++ p.enums ++ p.types).filterMap (·.description)

/-- **The texts that may bring a line break into a row**: those that tables show as they are, and for
    a carriage return also what cells show of descriptions. -/
def Page.breakTexts (short : Bool) (f : OutputFormat) (p : Page) (c : Char) : List String :=
  p.rawTexts f ++ if c = '\r' then p.descriptions.map (cellText short) else []

section BreakTexts

variable (short : Bool) (f : OutputFormat) {p : Page} {c : Char}

theorem render_mem_breakTexts {l : Link} (h : l ∈ p.links) :
    l.render f ∈ p.breakTexts short f c :=
  List.mem_append_left _ (List.mem_append_left _ (List.mem_map_of_mem h))

theorem mem_breakTexts_of_plain {x : String} (h : x ∈ p.plainTexts) :
    x ∈ p.breakTexts short f c := List.mem_append_left _ (List.mem_append_right _ h)

/-- A description in a cell has no line feed, and is among the texts that may bring a carriage
    return. -/
theorem breaksFrom_description (hc : IsLineBreak c) {d : String} (h : d ∈ p.descriptions) :
    BreaksFrom c (p.breakTexts short f c) (cellText short d) := by
  rcases hc with rfl | rfl
  · exact breaksFrom_of_not_mem (lineFeed_not_mem_cellText short d)
  · exact breaksFrom_of_mem (List.mem_append_right _ (List.mem_map_of_mem h))

end BreakTexts

theorem not_mem_of_printed {c : Char} (hc : IsLineBreak c) {cs : List Char} (h : Printed cs) :
    c ∉ cs := by
  intro has
  have bound := h c has
  rcases hc with rfl | rfl <;> exact absurd bound (by decide)

/-- The condition of a rule has no line break: it is compact JSON. -/
theorem lineBreak_not_mem_condition {c : Char} (hc : IsLineBreak c) (condition : Option Value) :
    c ∉ (showValue (.ofText? (RuleRow.conditionText condition))).toList := by
  unfold RuleRow.conditionText
  cases condition.filter fun v => !v.isNull with
  | none => exact List.not_mem_nil
  | some v => exact not_mem_of_printed hc (Json.printed_compact (withoutNames v))

theorem printed_boundsText (b : Bounds) : Printed b.text.toList := by
  unfold Bounds.text
  split
  · decide
  · decide
  · decide
  · rw [String.toList_append, String.toList_append, printed_append_iff, printed_append_iff]
    exact ⟨⟨printed_toString _, by decide⟩, printed_toString _⟩
  · rw [String.toList_append, printed_append_iff]
    exact ⟨printed_toString _, by decide⟩

/-- A cardinality is numbers and marks. -/
theorem lineBreak_not_mem_cardinality {c : Char} (hc : IsLineBreak c) (s : Slot) :
    c ∉ s.cardinality.toList := by
  refine not_mem_of_printed hc ?_
  unfold Slot.cardinality
  rw [String.toList_append, printed_append_iff]
  constructor
  · split
    · exact printed_toString _
    · exact printed_boundsText _
  · split <;> decide

/-! ## 2. Cells of rows -/

def listingCells (before : List Part) : List (List Part) :=
  [before ++ [plain ["row", "link"]], [cell ["row", "description"]]]

def slotCells : List (List Part) :=
  [[plain ["slot", "link"]],
   [plain ["slot", "cardinality"], .text " <br/> ", plain ["slot", "range"]],
   [cell ["slot", "description"]],
   [.ifAny [["slot", "inherited_from"]] [.value ["slot", "inherited_from"] [.join ", "]]
     [.text "direct"]]]

def classUsageCells : List (List Part) :=
  [[plain ["usage", "used_by"]], [plain ["usage", "used_in"]], [plain ["usage", "usage"]],
   [plain (page "name")]]

def ruleCells : List (List Part) :=
  [[plain ["rule", "title"]], [conditionCell "preconditions"], [conditionCell "postconditions"],
   [conditionCell "elseconditions"]]

def applicableCells : List (List Part) :=
  [[plain ["class", "link"]], [cell ["class", "description"]],
   [.ifAny [["class", "direct"]] [.text "no"] [.text "yes"]]]

def valueCells : List (List Part) :=
  [[plain ["pv", "text"]],
   [.ifAny [["pv", "meaning"]] [plain ["pv", "meaning"]] [.text "None"]],
   [cell ["pv", "description"]]]

def enumUsageCells : List (List Part) := [[plain ["usage", "used_in"]], [plain ["usage", "used_by"]]]

section Cells

variable {f : OutputFormat} {short : Bool} {names : Names} {raw : List String} {c : Char}
  (hc : IsLineBreak c)

theorem cellsBreak_listing (r : ElementRow) {before : List Part}
    (hb : partsBreakFrom c short (("row", r.toValue f) :: names) raw before)
    (h : r.link.render f ∈ raw)
    (hd : ∀ d ∈ r.description, BreaksFrom c raw (cellText short d)) :
    CellsBreak c short (("row", r.toValue f) :: names) raw (listingCells before) := by
  have link : (plain ["row", "link"]).BreaksFrom c short (("row", r.toValue f) :: names) raw :=
    breaksFrom_plain rfl (breaksFrom_of_mem h)
  have first : partsBreakFrom c short (("row", r.toValue f) :: names) raw
      (before ++ [plain ["row", "link"]]) := by
    induction before with
    | nil => simpa using link
    | cons p rest ih =>
        rw [partsBreakFrom_cons_iff] at hb
        exact partsBreakFrom_cons_iff.mpr ⟨hb.1, ih hb.2⟩
  have description : (cell ["row", "description"]).BreaksFrom c short
      (("row", r.toValue f) :: names) raw := breaksFrom_cell rfl hd
  simpa [listingCells] using ⟨first, description⟩

theorem showValues_links (links : List Link) :
    showValues (links.map (Link.toValue f)) = links.map (Link.render f) := by
  induction links with
  | nil => rfl
  | cons l rest ih =>
      rw [List.map_cons, showValues, ih]
      rfl

include hc in
theorem cellsBreak_slot (r : SlotRow) (plain_text : c ∉ r.cardinality.toList)
    (h : ∀ l ∈ r.links, l.render f ∈ raw)
    (hd : ∀ d ∈ r.description, BreaksFrom c raw (cellText short d)) :
    CellsBreak c short (("slot", r.toValue f) :: names) raw slotCells := by
  have link : (plain ["slot", "link"]).BreaksFrom c short (("slot", r.toValue f) :: names) raw :=
    breaksFrom_plain rfl (breaksFrom_of_mem (h r.link (by simp [SlotRow.links])))
  have cardinality : (plain ["slot", "cardinality"]).BreaksFrom c short
      (("slot", r.toValue f) :: names) raw :=
    breaksFrom_plain rfl (breaksFrom_of_not_mem plain_text)
  have range : (plain ["slot", "range"]).BreaksFrom c short (("slot", r.toValue f) :: names) raw :=
    breaksFrom_plain rfl (breaksFrom_of_mem (h r.range (by simp [SlotRow.links])))
  have inherited : (Part.value ["slot", "inherited_from"] [.join ", "]).BreaksFrom c short
      (("slot", r.toValue f) :: names) raw := by
    rw [Part.BreaksFrom]
    intro text shown
    cases shown
    show BreaksFrom c raw (Text.join ", " (showValues (r.inheritedFrom.map (Link.toValue f))))
    rw [showValues_links]
    refine breaksFrom_join (by rcases hc with rfl | rfl <;> decide) fun x hx => ?_
    obtain ⟨l, hl, rfl⟩ := List.mem_map.mp hx
    exact breaksFrom_of_mem (h l (by simp [SlotRow.links, hl]))
  have description : (cell ["slot", "description"]).BreaksFrom c short
      (("slot", r.toValue f) :: names) raw := breaksFrom_cell rfl hd
  rcases hc with rfl | rfl <;> simp [slotCells, link, cardinality, range, inherited, description]

section Usages

variable (r : UsageRow) (h : ∀ l ∈ r.links, l.render f ∈ raw)
include h

theorem breaksFrom_usedBy :
    (plain ["usage", "used_by"]).BreaksFrom c short (("usage", r.toValue f) :: names) raw :=
  breaksFrom_plain rfl (breaksFrom_of_mem (h r.usedBy (by simp [UsageRow.links])))

theorem breaksFrom_usedIn :
    (plain ["usage", "used_in"]).BreaksFrom c short (("usage", r.toValue f) :: names) raw :=
  breaksFrom_plain rfl (breaksFrom_of_mem (h r.usedIn (by simp [UsageRow.links])))

include hc in
theorem cellsBreak_classUsage {name : String}
    (named : find? (("usage", r.toValue f) :: names) (page "name") = some (.str name))
    (hn : name ∈ raw) :
    CellsBreak c short (("usage", r.toValue f) :: names) raw classUsageCells := by
  have usage : (plain ["usage", "usage"]).BreaksFrom c short (("usage", r.toValue f) :: names) raw :=
    breaksFrom_plain rfl (breaksFrom_of_not_mem (by rcases hc with rfl | rfl <;> decide))
  have own : (plain (page "name")).BreaksFrom c short (("usage", r.toValue f) :: names) raw :=
    breaksFrom_plain named (breaksFrom_of_mem hn)
  simp [classUsageCells, breaksFrom_usedBy r h, breaksFrom_usedIn r h, usage, own]

theorem cellsBreak_enumUsage :
    CellsBreak c short (("usage", r.toValue f) :: names) raw enumUsageCells := by
  simp [enumUsageCells, breaksFrom_usedBy r h, breaksFrom_usedIn r h]

end Usages

include hc

/-- A condition in its cell brings no line break. -/
theorem breaksFrom_condition {field : String} {condition : Option Value}
    (there : find? names ["rule", field] = some (.ofText? (RuleRow.conditionText condition))) :
    (conditionCell field).BreaksFrom c short names raw := by
  have shown : (plain ["rule", field]).BreaksFrom c short names raw :=
    breaksFrom_plain there (breaksFrom_of_not_mem (lineBreak_not_mem_condition hc condition))
  rcases hc with rfl | rfl <;> simp [conditionCell, lineIf, ifTrue, shown]

theorem cellsBreak_rule (r : Rule) (h : (RuleRow.ofRule r).title ∈ raw) :
    CellsBreak c short (("rule", (RuleRow.ofRule r).toValue) :: names) raw ruleCells := by
  have title : (plain ["rule", "title"]).BreaksFrom c short
      (("rule", (RuleRow.ofRule r).toValue) :: names) raw := breaksFrom_plain rfl (breaksFrom_of_mem h)
  have before : (conditionCell "preconditions").BreaksFrom c short
      (("rule", (RuleRow.ofRule r).toValue) :: names) raw := breaksFrom_condition hc rfl
  have after : (conditionCell "postconditions").BreaksFrom c short
      (("rule", (RuleRow.ofRule r).toValue) :: names) raw := breaksFrom_condition hc rfl
  have otherwise : (conditionCell "elseconditions").BreaksFrom c short
      (("rule", (RuleRow.ofRule r).toValue) :: names) raw := breaksFrom_condition hc rfl
  simp [ruleCells, title, before, after, otherwise]

theorem cellsBreak_applicable (r : ApplicableClass) (h : r.link.render f ∈ raw)
    (hd : ∀ d ∈ r.description, BreaksFrom c raw (cellText short d)) :
    CellsBreak c short (("class", r.toValue f) :: names) raw applicableCells := by
  have link : (plain ["class", "link"]).BreaksFrom c short (("class", r.toValue f) :: names) raw :=
    breaksFrom_plain rfl (breaksFrom_of_mem h)
  have description : (cell ["class", "description"]).BreaksFrom c short
      (("class", r.toValue f) :: names) raw := breaksFrom_cell rfl hd
  rcases hc with rfl | rfl <;> simp [applicableCells, link, description]

theorem cellsBreak_value (r : PermissibleValueRow) (ht : r.text ∈ raw)
    (hm : ∀ l ∈ r.meaning, l.render f ∈ raw)
    (hd : ∀ d ∈ r.description, BreaksFrom c raw (cellText short d)) :
    CellsBreak c short (("pv", r.toValue f) :: names) raw valueCells := by
  have text : (plain ["pv", "text"]).BreaksFrom c short (("pv", r.toValue f) :: names) raw :=
    breaksFrom_plain rfl (breaksFrom_of_mem ht)
  have meaning : (plain ["pv", "meaning"]).BreaksFrom c short (("pv", r.toValue f) :: names) raw := by
    refine breaksFrom_plain rfl ?_
    cases hr : r.meaning with
    | none => exact breaksFrom_of_not_mem List.not_mem_nil
    | some l => exact breaksFrom_of_mem (hm l hr)
  have description : (cell ["pv", "description"]).BreaksFrom c short
      (("pv", r.toValue f) :: names) raw := breaksFrom_cell rfl hd
  rcases hc with rfl | rfl <;> simp [valueCells, text, meaning, description]

end Cells

/-! ## 3. Rows of pages -/

/-- **The rows of a table have line breaks only from the texts of the page that may bring them**, on all
    pages of a kind. The table has the cells for each item of a list, which has a name there. -/
def RowsBreak (k : TemplateKind) (name : String) (way : Way) (cells : List (List Part)) : Prop :=
  ∀ (s : Site) (fs : FileSystem) (subject : Subject) (p : Page) (short : Bool) (items : List Value)
    (v : Value) (c : Char), IsLineBreak c → s.page? fs subject = .ok (some p) → p.template = k →
    itemsAt (s.templateNames (some p)) way = .ok items → v ∈ items →
    CellsBreak c short ((name, v) :: s.templateNames (some p))
      (p.breakTexts short s.config.format c) cells

/-- The page of a class is made from a class. -/
theorem exists_class_of_page {s : Site} {fs : FileSystem} {subject : Subject} {p : ClassPage}
    (h : s.page? fs subject = .ok (some (.cls p))) : ∃ c examples, p = s.classPage c examples := by
  cases subject with
  | index => cases h
  | schema name =>
      obtain ⟨_, _, same⟩ := Site.page_schema h
      cases same
  | element kind name =>
      obtain ⟨e, _, _, _, built⟩ := Site.page_element h
      have template := Site.template_of_elementPage built
      cases e with
      | cls c =>
          obtain ⟨examples, same⟩ := Site.classPage_of_elementPage built
          cases same
          exact ⟨c, examples, rfl⟩
      | _ => cases template

/-- What the listings of a page are under. -/
def listedFields : List String := ["classes", "slots", "enums", "types", "subsets"]

/-- The kinds of pages that list elements. -/
def listingKinds : List TemplateKind := [.index, .schema, .subset]

section Items

variable {s : Site} {fs : FileSystem} {subject : Subject} {p : Page} {items : List Value} {v : Value}

/-- The items of a listing are rows whose links and descriptions are on the page. -/
theorem exists_elementRow (hk : p.template ∈ listingKinds) {field : String}
    (hf : field ∈ listedFields)
    (there : itemsAt (s.templateNames (some p)) (page field) = .ok items) (hv : v ∈ items) :
    ∃ r : ElementRow, v = r.toValue s.config.format ∧ r.link ∈ p.links ∧
      ∀ d ∈ r.description, d ∈ p.descriptions := by
  have listed {rows all : List ElementRow} (hr : ∀ r ∈ rows, r ∈ all)
      (hv : v ∈ rows.map (ElementRow.toValue s.config.format)) :
      ∃ r : ElementRow, v = r.toValue s.config.format ∧ r.link ∈ ElementRow.links all ∧
        ∀ d ∈ r.description, d ∈ all.filterMap (·.description) := by
    obtain ⟨r, mem, rfl⟩ := List.mem_map.mp hv
    exact ⟨r, rfl, List.mem_map_of_mem (hr r mem),
      fun d hd => List.mem_filterMap.mpr ⟨r, hr r mem, hd⟩⟩
  simp only [listedFields, List.mem_cons, List.not_mem_nil, or_false] at hf
  cases p with
  | index p =>
      rcases hf with rfl | rfl | rfl | rfl | rfl <;> cases there <;>
        exact listed (by simp +contextual) hv
  | schema p =>
      rcases hf with rfl | rfl | rfl | rfl | rfl <;> cases there <;>
        exact listed (by simp +contextual) hv
  | subset p =>
      rcases hf with rfl | rfl | rfl | rfl | rfl <;> cases there <;>
        exact (listed (by simp +contextual) hv).imp fun _ h =>
          ⟨h.1, List.mem_append_right _ h.2.1, h.2.2⟩
  | _ => exact absurd hk (by simp [Page.template, listingKinds])

theorem rowsBreak_listing {k : TemplateKind} {field : String} {before : List Part}
    (hk : k ∈ listingKinds) (hf : field ∈ listedFields)
    (hb : ∀ (c : Char) (short : Bool) (names : Names) (raw : List String), IsLineBreak c →
      partsBreakFrom c short names raw before) :
    RowsBreak k "row" (page field) (listingCells before) := by
  intro s fs subject p short items v c hc _ kind there hv
  obtain ⟨r, rfl, link, described⟩ := exists_elementRow (kind ▸ hk) hf there hv
  exact cellsBreak_listing r (hb c _ _ _ hc) (render_mem_breakTexts _ _ link)
    fun d hd => breaksFrom_description _ _ hc (described d hd)

theorem rowsBreak_slots : RowsBreak .cls "slot" (page "slots") slotCells := by
  intro s fs subject p short items v c hc built kind there hv
  cases p with
  | cls p =>
      obtain ⟨cls, examples, rfl⟩ := exists_class_of_page built
      cases there
      obtain ⟨r, hr, rfl⟩ := List.mem_map.mp hv
      obtain ⟨slot, _, same⟩ := List.mem_map.mp hr
      refine cellsBreak_slot hc r (same ▸ lineBreak_not_mem_cardinality hc slot)
        (fun l hl => render_mem_breakTexts _ _ ?_)
        fun d hd => breaksFrom_description _ _ hc (List.mem_filterMap.mpr ⟨r, hr, hd⟩)
      have mem : l ∈ (s.classPage cls examples).slots.flatMap SlotRow.links :=
        List.mem_flatMap.mpr ⟨r, hr, hl⟩
      simp only [Page.links, List.mem_append]
      exact Or.inl (Or.inl (Or.inl (Or.inr mem)))
  | _ => cases kind

theorem rowsBreak_classUsages : RowsBreak .cls "usage" (page "usages") classUsageCells := by
  intro s fs subject p short items v c hc built kind there hv
  cases p with
  | cls p =>
      cases there
      obtain ⟨r, hr, rfl⟩ := List.mem_map.mp hv
      refine cellsBreak_classUsage hc r (fun l hl => render_mem_breakTexts _ _ ?_) rfl
        (mem_breakTexts_of_plain _ _ List.mem_cons_self)
      have mem : l ∈ p.usages.flatMap UsageRow.links := List.mem_flatMap.mpr ⟨r, hr, hl⟩
      simp only [Page.links, List.mem_append]
      exact Or.inl (Or.inr mem)
  | _ => cases kind

theorem rowsBreak_rules : RowsBreak .cls "rule" (page "rules") ruleCells := by
  intro s fs subject p short items v c hc built kind there hv
  cases p with
  | cls p =>
      obtain ⟨cls, examples, rfl⟩ := exists_class_of_page built
      cases there
      obtain ⟨row, hr, rfl⟩ := List.mem_map.mp hv
      obtain ⟨r, _, rfl⟩ := List.mem_map.mp hr
      exact cellsBreak_rule hc r
        (mem_breakTexts_of_plain _ _ (List.mem_cons_of_mem _ (List.mem_map_of_mem hr)))
  | _ => cases kind

theorem rowsBreak_applicable :
    RowsBreak .slot "class" (page "applicable_classes") applicableCells := by
  intro s fs subject p short items v c hc _ kind there hv
  cases p with
  | slot p =>
      cases there
      obtain ⟨r, hr, rfl⟩ := List.mem_map.mp hv
      exact cellsBreak_applicable hc r
        (render_mem_breakTexts _ _ (List.mem_append_right _ (List.mem_map_of_mem hr)))
        fun d hd => breaksFrom_description _ _ hc (List.mem_filterMap.mpr ⟨r, hr, hd⟩)
  | _ => cases kind

theorem rowsBreak_values : RowsBreak .enum "pv" (page "permissible_values") valueCells := by
  intro s fs subject p short items v c hc _ kind there hv
  cases p with
  | enum p =>
      cases there
      obtain ⟨r, hr, rfl⟩ := List.mem_map.mp hv
      refine cellsBreak_value hc r (mem_breakTexts_of_plain _ _ (List.mem_map_of_mem hr))
        (fun l hl => render_mem_breakTexts _ _ ?_)
        fun d hd => breaksFrom_description _ _ hc (List.mem_filterMap.mpr ⟨r, hr, hd⟩)
      have mem : l ∈ p.permissibleValues.filterMap PermissibleValueRow.meaning :=
        List.mem_filterMap.mpr ⟨r, hr, hl⟩
      simp only [Page.links, List.mem_append]
      exact Or.inl (Or.inr mem)
  | _ => cases kind

theorem rowsBreak_enumUsages : RowsBreak .enum "usage" (page "usages") enumUsageCells := by
  intro s fs subject p short items v c hc _ kind there hv
  cases p with
  | enum p =>
      cases there
      obtain ⟨r, hr, rfl⟩ := List.mem_map.mp hv
      exact cellsBreak_enumUsage r fun l hl => render_mem_breakTexts _ _
        (List.mem_append_right _ (List.mem_flatMap.mpr ⟨r, hr, hl⟩))
  | _ => cases kind

end Items

end SchemaPages
