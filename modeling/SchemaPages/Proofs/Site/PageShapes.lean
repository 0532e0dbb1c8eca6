import SchemaPages.Proofs.Site.Subjects
import SchemaPages.Proofs.Template.Shapes
/-!
# Shapes of pages

Every page is a record of the same fields as all pages for its template, and the built-in templates
ask for nothing else.

* `TemplateKind.pageShape`: what the pages for a template hold;
* `fits_page`, `fits_settings`: every page holds that, whatever it is about;
* `builtin_admitted`: the built-in templates ask for nothing that a page may lack.
-/

namespace SchemaPages

open Template

/-! ## 1. Rows -/

def elementRowShape : Shape :=
  .record [("name", .text), ("link", .text), ("description", .option), ("depth", .count)]

def slotRowShape : Shape :=
  .record
    [("name", .text), ("link", .text), ("cardinality", .text), ("range", .text),
     ("description", .option), ("inherited_from", .list .text), ("value_range", .option)]

def usageRowShape : Shape := .record [("used_by", .text), ("used_in", .text), ("usage", .text)]

def applicableClassShape : Shape :=
  .record [("link", .text), ("description", .option), ("direct", .switch)]

def mixinSlotsShape : Shape := .record [("mixin", .text), ("slots", .list .text)]

def permissibleValueRowShape : Shape :=
  .record [("text", .text), ("description", .option), ("meaning", .option)]

def ruleRowShape : Shape :=
  .record
    [("title", .text), ("description", .option), ("preconditions", .option),
     ("postconditions", .option), ("elseconditions", .option), ("deactivated", .switch)]

def exampleShape : Shape := .record [("name", .text), ("format", .text), ("content", .text)]

section Rows

variable (f : OutputFormat)

@[simp] theorem fits_link (l : Link) : Fits (l.toValue f) .text := .text _

@[simp] theorem fits_optionalLink (l : Option Link) : Fits (Link.optionToValue f l) .option := by
  cases l with
  | none => exact .none
  | some l => exact .some _

@[simp] theorem fits_links (links : List Link) : Fits (Link.listToValue f links) (.list .text) := by
  simp [Link.listToValue]

@[simp] theorem fits_texts (texts : List String) : Fits (.ofTexts texts) (.list .text) := by
  simp [Value.ofTexts]

@[simp] theorem fits_elementRows (rows : List ElementRow) :
    Fits (ElementRow.listToValue f rows) (.list elementRowShape) := by
  simp [ElementRow.listToValue, ElementRow.toValue, elementRowShape]

@[simp] theorem fits_slotRow (r : SlotRow) : Fits (r.toValue f) slotRowShape := by
  simp [SlotRow.toValue, slotRowShape]

@[simp] theorem fits_usageRow (r : UsageRow) : Fits (r.toValue f) usageRowShape := by
  simp [UsageRow.toValue, usageRowShape]

@[simp] theorem fits_applicableClass (r : ApplicableClass) :
    Fits (r.toValue f) applicableClassShape := by
  simp [ApplicableClass.toValue, applicableClassShape]

@[simp] theorem fits_mixinSlots (m : MixinSlots) : Fits (m.toValue f) mixinSlotsShape := by
  simp [MixinSlots.toValue, mixinSlotsShape]

@[simp] theorem fits_permissibleValueRow (r : PermissibleValueRow) :
    Fits (r.toValue f) permissibleValueRowShape := by
  simp [PermissibleValueRow.toValue, permissibleValueRowShape]

@[simp] theorem fits_ruleRow (r : RuleRow) : Fits r.toValue ruleRowShape := by
  simp [RuleRow.toValue, ruleRowShape]

@[simp] theorem fits_example (e : Example) : Fits e.toValue exampleShape := by
  simp [Example.toValue, exampleShape]

end Rows

/-! ## 2. Pages -/

/-- What the pages of all elements hold. -/
def elementFields : List (String × Shape) :=
  [("kind", .text), ("name", .text), ("raw_name", .text), ("title", .option),
   ("description", .option), ("uri", .text), ("curie", .text), ("uri_link", .text),
   ("from_schema", .option), ("in_subset", .list .text), ("source_yaml", .text)]

/-- What the index and the pages of schemas hold. -/
def schemaFields : List (String × Shape) :=
  [("name", .text), ("title", .text), ("id", .text), ("description", .option),
   ("version", .option), ("license", .option)]

/-- **What the pages for a template hold.** -/
def TemplateKind.pageShape : TemplateKind → Shape
  | .index => .record <| schemaFields ++
      [("classes", .list elementRowShape), ("slots", .list elementRowShape),
       ("enums", .list elementRowShape), ("types", .list elementRowShape),
       ("subsets", .list elementRowShape), ("diagram", .option)]
  | .schema => .record <| schemaFields ++
      [("imports", .list .text), ("is_root", .switch), ("classes", .list elementRowShape),
       ("slots", .list elementRowShape), ("enums", .list elementRowShape),
       ("types", .list elementRowShape)]
  | .cls => .record <| elementFields ++
      [("is_abstract", .switch), ("is_mixin", .switch), ("tree", .text), ("diagram", .option),
       ("slots", .list slotRowShape), ("mixin_slots", .list mixinSlotsShape),
       ("usages", .list usageRowShape), ("rules", .list ruleRowShape),
       ("examples", .list exampleShape), ("aliases", .list .text), ("comments", .list .text),
       ("see_also", .list .text), ("induced_yaml", .text)]
  | .slot => .record <| elementFields ++
      [("tree", .text), ("cardinality", .text), ("range", .text), ("domain", .option),
       ("value_range", .option), ("pattern", .option), ("required", .switch),
       ("recommended", .switch), ("multivalued", .switch), ("identifier", .switch),
       ("applicable_classes", .list applicableClassShape), ("aliases", .list .text),
       ("comments", .list .text)]
  | .enum => .record <| elementFields ++
      [("permissible_values", .list permissibleValueRowShape), ("usages", .list usageRowShape)]
  | .type => .record <| elementFields ++
      [("type_of", .option), ("base", .option), ("repr", .option), ("pattern", .option),
       ("value_range", .option)]
  | .subset => .record <| elementFields ++
      [("classes", .list elementRowShape), ("slots", .list elementRowShape),
       ("enums", .list elementRowShape), ("types", .list elementRowShape)]

/-- **A page holds what the pages for its template hold.** -/
theorem fits_page (f : OutputFormat) (p : Page) : Fits (p.toValue f) p.template.pageShape := by
  cases p with
  | index p =>
      simp [Page.toValue, IndexPage.toValue, SchemaHeader.entries, Page.template,
        TemplateKind.pageShape, schemaFields]
  | schema p =>
      simp [Page.toValue, SchemaPage.toValue, SchemaHeader.entries, Page.template,
        TemplateKind.pageShape, schemaFields]
  | cls p =>
      simp [Page.toValue, ClassPage.toValue, ElementHeader.entries, Page.template,
        TemplateKind.pageShape, elementFields]
  | slot p =>
      simp [Page.toValue, SlotPage.toValue, ElementHeader.entries, Page.template,
        TemplateKind.pageShape, elementFields]
  | enum p =>
      simp [Page.toValue, EnumPage.toValue, ElementHeader.entries, Page.template,
        TemplateKind.pageShape, elementFields]
  | type p =>
      simp [Page.toValue, TypePage.toValue, ElementHeader.entries, Page.template,
        TemplateKind.pageShape, elementFields]
  | subset p =>
      simp [Page.toValue, SubsetPage.toValue, ElementHeader.entries, Page.template,
        TemplateKind.pageShape, elementFields]

/-- What every page may show besides. -/
def settingsShape : Shape :=
  .record
    [("schema_title", .text), ("format", .text), ("mermaid_directive", .text),
     ("diagram_type", .option), ("include_top_level_diagram", .switch),
     ("hierarchical_class_view", .switch), ("sort_by", .text)]

theorem fits_settings (s : Site) : Fits s.settings settingsShape := by
  simp [Site.settings, settingsShape]

/-! ## 3. Built-in templates -/

/-- What a template can use. -/
def TemplateKind.context (k : TemplateKind) : Context :=
  [("settings", settingsShape), ("page", k.pageShape)]

/-- **The built-in templates ask for nothing that a page may lack.** -/
theorem builtin_admitted (k : TemplateKind) : partsAdmitted k.context k.builtin = true := by
  cases k <;> decide +kernel

end SchemaPages
