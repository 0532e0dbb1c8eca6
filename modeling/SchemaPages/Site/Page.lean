import SchemaPages.Data.Yaml.Printer
import SchemaPages.Schema.Condition
import SchemaPages.Site.Diagram
import SchemaPages.Site.Examples
import SchemaPages.Site.Outline
/-!
# Pages

What the pages of a site show. Links stay links here; as a value, which is all that a template
sees, a page holds their markup.

* the rows of tables;
* `ElementHeader` and the pages `IndexPage`, `SchemaPage`, `ClassPage`, `SlotPage`, `EnumPage`,
  `TypePage`, `SubsetPage`;
* `Page`: any of these.
-/

namespace SchemaPages

/-! ## 1. Rows -/

/-- The markup of a link as a value. -/
def Link.toValue (f : OutputFormat) (l : Link) : Value := .str (l.render f)

/-- Markup of links as a value. -/
def Link.listToValue (f : OutputFormat) (links : List Link) : Value :=
  .arr (links.map (Link.toValue f))

/-- An element in a listing. -/
structure ElementRow where
  name : String
  link : Link
  description : Option String
  /-- How deep the element lies, in a listing as a tree. -/
  depth : Nat
  deriving DecidableEq, Repr

/-- A row as a value. -/
def ElementRow.toValue (f : OutputFormat) (r : ElementRow) : Value :=
  .obj
    [("name", .str r.name), ("link", r.link.toValue f), ("description", .ofText? r.description),
     ("depth", .ofNat r.depth)]

/-- Rows as a value. -/
def ElementRow.listToValue (f : OutputFormat) (rows : List ElementRow) : Value :=
  .arr (rows.map (ElementRow.toValue f))

/-- A slot of a class. -/
structure SlotRow where
  name : String
  link : Link
  cardinality : String
  range : Link
  description : Option String
  /-- The ancestors that declare the slot, unless the class itself does. -/
  inheritedFrom : List Link
  valueRange : Option String
  deriving DecidableEq, Repr

/-- A row as a value. -/
def SlotRow.toValue (f : OutputFormat) (r : SlotRow) : Value :=
  .obj
    [("name", .str r.name), ("link", r.link.toValue f), ("cardinality", .str r.cardinality),
     ("range", r.range.toValue f), ("description", .ofText? r.description),
     ("inherited_from", Link.listToValue f r.inheritedFrom),
     ("value_range", .ofText? r.valueRange)]

/-- A slot of a class whose range is the element of the page. -/
structure UsageRow where
  usedBy : Link
  usedIn : Link
  deriving DecidableEq, Repr

/-- A row as a value. -/
def UsageRow.toValue (f : OutputFormat) (r : UsageRow) : Value :=
  .obj [("used_by", r.usedBy.toValue f), ("used_in", r.usedIn.toValue f), ("usage", .str "range")]

/-- A class that a slot applies to. -/
structure ApplicableClass where
  link : Link
  description : Option String
  /-- Whether the class declares the slot itself. -/
  direct : Bool
  deriving DecidableEq, Repr

/-- A row as a value. -/
def ApplicableClass.toValue (f : OutputFormat) (r : ApplicableClass) : Value :=
  .obj
    [("link", r.link.toValue f), ("description", .ofText? r.description), ("direct", .bool r.direct)]

/-- The slots that a class takes from a mixin. -/
structure MixinSlots where
  mixin : Link
  slots : List Link
  deriving DecidableEq, Repr

/-- The slots of a mixin as a value. -/
def MixinSlots.toValue (f : OutputFormat) (m : MixinSlots) : Value :=
  .obj [("mixin", m.mixin.toValue f), ("slots", Link.listToValue f m.slots)]

/-- A permissible value of an enumeration. -/
structure PermissibleValueRow where
  text : String
  description : Option String
  meaning : Option Link
  deriving DecidableEq, Repr

/-- A link that may be missing, as a value. -/
def Link.optionToValue (f : OutputFormat) : Option Link → Value
  | some l => l.toValue f
  | none => .null

/-- A row as a value. -/
def PermissibleValueRow.toValue (f : OutputFormat) (r : PermissibleValueRow) : Value :=
  .obj
    [("text", .str r.text), ("description", .ofText? r.description),
     ("meaning", Link.optionToValue f r.meaning)]

/-! ## 2. Pages of elements -/

/-- What the pages of all elements show. -/
structure ElementHeader where
  kind : Kind
  /-- The canonical name, which the page is named after. -/
  name : String
  /-- The name that the schema gives the element. -/
  rawName : String
  title : Option String
  description : Option String
  uri : String
  curie : String
  uriLink : Link
  fromSchema : Option String
  inSubset : List Link
  /-- The definition as YAML. -/
  source : String
  deriving DecidableEq, Repr

/-- The entries of a header. -/
def ElementHeader.entries (f : OutputFormat) (h : ElementHeader) : List (String × Value) :=
  [("kind", .str h.kind.text), ("name", .str h.name), ("raw_name", .str h.rawName),
   ("title", .ofText? h.title), ("description", .ofText? h.description), ("uri", .str h.uri),
   ("curie", .str h.curie), ("uri_link", h.uriLink.toValue f),
   ("from_schema", .ofText? h.fromSchema), ("in_subset", Link.listToValue f h.inSubset),
   ("source_yaml", .str h.source)]

/-- The page of a class. -/
structure ClassPage where
  header : ElementHeader
  isAbstract : Bool
  isMixin : Bool
  outline : Outline
  diagram : Option String
  slots : List SlotRow
  mixinSlots : List MixinSlots
  usages : List UsageRow
  rules : List RuleRow
  examples : List Example
  aliases : List String
  comments : List String
  seeAlso : List Link
  /-- The class as YAML with all slots that apply to it. -/
  induced : String
  deriving DecidableEq, Repr

/-- A page as a value. -/
def ClassPage.toValue (f : OutputFormat) (p : ClassPage) : Value :=
  .obj <| p.header.entries f ++
    [("is_abstract", .bool p.isAbstract), ("is_mixin", .bool p.isMixin),
     ("tree", .str (p.outline.render f)), ("diagram", .ofText? p.diagram),
     ("slots", .arr (p.slots.map (SlotRow.toValue f))),
     ("mixin_slots", .arr (p.mixinSlots.map (MixinSlots.toValue f))),
     ("usages", .arr (p.usages.map (UsageRow.toValue f))),
     ("rules", .arr (p.rules.map RuleRow.toValue)),
     ("examples", .arr (p.examples.map Example.toValue)),
     ("aliases", .ofTexts p.aliases), ("comments", .ofTexts p.comments),
     ("see_also", Link.listToValue f p.seeAlso), ("induced_yaml", .str p.induced)]

/-- The page of a slot. -/
structure SlotPage where
  header : ElementHeader
  outline : Outline
  cardinality : String
  range : Link
  domain : Option Link
  valueRange : Option String
  pattern : Option String
  required : Bool
  recommended : Bool
  multivalued : Bool
  identifier : Bool
  applicableClasses : List ApplicableClass
  aliases : List String
  comments : List String
  deriving DecidableEq, Repr

/-- A page as a value. -/
def SlotPage.toValue (f : OutputFormat) (p : SlotPage) : Value :=
  .obj <| p.header.entries f ++
    [("tree", .str (p.outline.render f)), ("cardinality", .str p.cardinality),
     ("range", p.range.toValue f), ("domain", Link.optionToValue f p.domain),
     ("value_range", .ofText? p.valueRange), ("pattern", .ofText? p.pattern),
     ("required", .bool p.required), ("recommended", .bool p.recommended),
     ("multivalued", .bool p.multivalued), ("identifier", .bool p.identifier),
     ("applicable_classes", .arr (p.applicableClasses.map (ApplicableClass.toValue f))),
     ("aliases", .ofTexts p.aliases), ("comments", .ofTexts p.comments)]

/-- The page of an enumeration. -/
structure EnumPage where
  header : ElementHeader
  permissibleValues : List PermissibleValueRow
  usages : List UsageRow
  deriving DecidableEq, Repr

/-- A page as a value. -/
def EnumPage.toValue (f : OutputFormat) (p : EnumPage) : Value :=
  .obj <| p.header.entries f ++
    [("permissible_values", .arr (p.permissibleValues.map (PermissibleValueRow.toValue f))),
     ("usages", .arr (p.usages.map (UsageRow.toValue f)))]

/-- The page of a type. -/
structure TypePage where
  header : ElementHeader
  typeOf : Option Link
  base : Option String
  repr : Option String
  pattern : Option String
  valueRange : Option String
  deriving DecidableEq, Repr

/-- A page as a value. -/
def TypePage.toValue (f : OutputFormat) (p : TypePage) : Value :=
  .obj <| p.header.entries f ++
    [("type_of", Link.optionToValue f p.typeOf), ("base", .ofText? p.base),
     ("repr", .ofText? p.repr), ("pattern", .ofText? p.pattern),
     ("value_range", .ofText? p.valueRange)]

/-- The page of a subset, with its members. -/
structure SubsetPage where
  header : ElementHeader
  classes : List ElementRow
  slots : List ElementRow
  enums : List ElementRow
  types : List ElementRow
  deriving DecidableEq, Repr

/-- A page as a value. -/
def SubsetPage.toValue (f : OutputFormat) (p : SubsetPage) : Value :=
  .obj <| p.header.entries f ++
    [("classes", ElementRow.listToValue f p.classes), ("slots", ElementRow.listToValue f p.slots),
     ("enums", ElementRow.listToValue f p.enums), ("types", ElementRow.listToValue f p.types)]

/-! ## 3. Pages of schemas -/

/-- What the index and the page of a schema tell about it. -/
structure SchemaHeader where
  name : String
  title : String
  id : String
  description : Option String
  version : Option String
  license : Option String
  deriving DecidableEq, Repr

/-- The header of a schema. -/
def SchemaHeader.ofSchema (s : Schema) : SchemaHeader :=
  ⟨s.name, s.title.getD s.name, s.id, s.description, s.version, s.license⟩

/-- The entries of a header. -/
def SchemaHeader.entries (h : SchemaHeader) : List (String × Value) :=
  [("name", .str h.name), ("title", .str h.title), ("id", .str h.id),
   ("description", .ofText? h.description), ("version", .ofText? h.version),
   ("license", .ofText? h.license)]

/-- The index of a site. -/
structure IndexPage where
  header : SchemaHeader
  classes : List ElementRow
  slots : List ElementRow
  enums : List ElementRow
  types : List ElementRow
  subsets : List ElementRow
  diagram : Option String
  deriving DecidableEq, Repr

/-- A page as a value. -/
def IndexPage.toValue (f : OutputFormat) (p : IndexPage) : Value :=
  .obj <| p.header.entries ++
    [("classes", ElementRow.listToValue f p.classes), ("slots", ElementRow.listToValue f p.slots),
     ("enums", ElementRow.listToValue f p.enums), ("types", ElementRow.listToValue f p.types),
     ("subsets", ElementRow.listToValue f p.subsets), ("diagram", .ofText? p.diagram)]

/-- The page of a schema. -/
structure SchemaPage where
  header : SchemaHeader
  imports : List String
  isRoot : Bool
  classes : List ElementRow
  slots : List ElementRow
  enums : List ElementRow
  types : List ElementRow
  deriving DecidableEq, Repr

/-- A page as a value. -/
def SchemaPage.toValue (f : OutputFormat) (p : SchemaPage) : Value :=
  .obj <| p.header.entries ++
    [("imports", .ofTexts p.imports), ("is_root", .bool p.isRoot),
     ("classes", ElementRow.listToValue f p.classes), ("slots", ElementRow.listToValue f p.slots),
     ("enums", ElementRow.listToValue f p.enums), ("types", ElementRow.listToValue f p.types)]

/-! ## 4. Any page -/

/-- A page. -/
inductive Page where
  | index (p : IndexPage)
  | schema (p : SchemaPage)
  | cls (p : ClassPage)
  | slot (p : SlotPage)
  | enum (p : EnumPage)
  | type (p : TypePage)
  | subset (p : SubsetPage)
  deriving DecidableEq, Repr

/-- A page as a value. -/
def Page.toValue (f : OutputFormat) : Page → Value
  | .index p => p.toValue f
  | .schema p => p.toValue f
  | .cls p => p.toValue f
  | .slot p => p.toValue f
  | .enum p => p.toValue f
  | .type p => p.toValue f
  | .subset p => p.toValue f

/-- The header of an element's page. -/
def Page.header? : Page → Option ElementHeader
  | .cls p => some p.header
  | .slot p => some p.header
  | .enum p => some p.header
  | .type p => some p.header
  | .subset p => some p.header
  | .index _ => none
  | .schema _ => none

end SchemaPages
